import AbiBindings.Proofs.Renamings

namespace AbiBindings

/-- What is said of a struct under another name than its shape wanted: who has the name wanted, and
which one stands for it. The names are those of all structs. -/
def Shape.collisionReport (shape : Shape) (contractType : String) (names : List String)
    (wanted name : String) : Option Diagnostic :=
  if name = wanted then none
  else some (.structName wanted (holderOf contractType names wanted).text name shape.origin)

def collisionReports (contractType : String) (shapes : ShapeTable)
    (structs : List StructDefinition) : List Diagnostic :=
  (shapes.zip structs).filterMap fun (shape, d) =>
    shape.collisionReport contractType (structs.map (·.name)) (shape.wanted d.id) d.name

section Settling

variable {table : ShapeTable} {id : StructId} {scope scope' : Scope} {contractType : String}
variable {cs : List Candidate} {granted names final : List String} {ds : List Diagnostic}

/-- A name refused to a shape is in use from then on. -/
theorem candidates_refused (h : candidates id scope table = (cs, scope')) :
    ∀ c ∈ cs, c.granted = false → c.wanted ∈ scope'.taken := by
  induction table generalizing id scope cs with
  | nil =>
    cases h
    simp
  | cons shape table ih =>
    obtain ⟨granted, scope₁, rest, ht, hr, rfl⟩ := candidates_cons h
    have hrest := ih hr
    intro c hc hrefused
    rcases List.mem_cons.mp hc with rfl | hc
    · obtain rfl : granted = false := hrefused
      obtain ⟨hm, rfl⟩ := Scope.tryClaim_false ht
      exact (candidates_spec hr).2.taken.mem_iff.mpr (List.mem_append_right _ hm)
    · exact hrest c hc hrefused

theorem holderOf_congr {name : String} (h : name ∈ names ↔ name ∈ granted) :
    holderOf contractType names name = holderOf contractType granted name := by
  simp only [holderOf, h]

/-- A name in use stays with whom it is with: what is granted from then on is new. So a report that
looks at the names granted so far says what a look at all names would. -/
theorem settleNames_reports (h : settleNames contractType granted scope cs = (names, ds, scope'))
    (hrefused : ∀ c ∈ cs, c.granted = false → c.wanted ∈ scope.taken)
    (hfinal : ∀ n ∈ names, n ∈ final)
    (hheld : ∀ n ∈ scope.taken, n ∈ final ↔ n ∈ granted) :
    ds = (cs.zip names).filterMap fun (c, name) =>
      c.shape.collisionReport contractType final c.wanted name := by
  induction cs generalizing granted scope names ds with
  | nil =>
    cases h
    rfl
  | cons c cs ih =>
    obtain ⟨hhead, htail⟩ := List.forall_mem_cons.mp hrefused
    simp only [settleNames] at h
    split at h
    · obtain ⟨⟨rest, ds₁, scope₁⟩, hr⟩ :
        ∃ p, settleNames contractType granted scope cs = p := ⟨_, rfl⟩
      simp only [hr, Prod.mk.injEq] at h
      obtain ⟨rfl, rfl, rfl⟩ := h
      have hds := ih hr htail (fun n hn => hfinal n (List.mem_cons_of_mem _ hn)) hheld
      simp only [List.zip_cons_cons, List.filterMap_cons, Shape.collisionReport, ↓reduceIte]
      exact hds
    · rename_i hnot
      have hwanted := hhead (by simpa using hnot)
      obtain ⟨⟨renamed, scope₁⟩, hc⟩ : ∃ p, scope.claimNumbered c.wanted "" = p := ⟨_, rfl⟩
      obtain ⟨⟨rest, ds₁, scope₂⟩, hr⟩ :
        ∃ p, settleNames contractType (renamed :: granted) scope₁ cs = p := ⟨_, rfl⟩
      simp only [hc, hr, Prod.mk.injEq] at h
      obtain ⟨rfl, rfl, rfl⟩ := h
      obtain ⟨rfl, hnew, _⟩ := Scope.claimNumbered_cases hc
      have hrenamed : renamed ∈ final := hfinal renamed List.mem_cons_self
      have hds := ih hr (fun c hc hg => List.mem_cons_of_mem _ (htail c hc hg))
        (fun n hn => hfinal n (List.mem_cons_of_mem _ hn)) (by
          intro n hn
          rcases List.mem_cons.mp hn with rfl | hn
          · simp [hrenamed]
          · have hne : n ≠ renamed := fun he => hnew (he ▸ hn)
            simp [hheld n hn, hne])
      have hne : renamed ≠ c.wanted := fun he => hnew (he ▸ hwanted)
      simp only [List.zip_cons_cons, List.filterMap_cons, Shape.collisionReport, if_neg hne,
        holderOf_congr (hheld c.wanted hwanted)]
      exact congrArg _ hds

/-- Candidates and definitions follow the shapes alike. -/
theorem candidates_zip {structs : List StructDefinition}
    (hc : candidates id scope table = (cs, scope'))
    (hd : defineAll id (table.zip names) = (structs, ds)) (hlen : names.length = table.length) :
    ((cs.zip names).filterMap fun (c, name) =>
        c.shape.collisionReport contractType final c.wanted name) =
      (table.zip structs).filterMap fun (shape, d) =>
        shape.collisionReport contractType final (shape.wanted d.id) d.name := by
  induction table generalizing id scope cs names structs ds with
  | nil =>
    cases hc
    rfl
  | cons shape table ih =>
    cases names with
    | nil => cases hlen
    | cons name names =>
      obtain ⟨_, _, rest, _, hrest, rfl⟩ := candidates_cons hc
      obtain ⟨d, _, structs, _, hshape, hstructs, rfl⟩ := defineAll_cons hd
      obtain ⟨_, _, _, rfl⟩ := Shape.define_ok hshape
      have htail := ih hrest hstructs (Nat.succ.inj hlen)
      simp only [List.zip_cons_cons, List.filterMap_cons, htail]

/-- Naming the shapes reports every struct that does not have the name it wanted, and after that
every field that does not have its own. -/
theorem ShapeTable.name_reports {structs : List StructDefinition}
    (h : table.name scope contractType = (structs, ds, scope')) :
    ds = collisionReports contractType table structs ++ structs.flatMap (·.fieldReports) := by
  obtain ⟨cs, scope₁, names, renamed, fieldsRenamed, hc, hn, hd, rfl, hlen⟩ := name_ok h
  obtain ⟨_, others, hothers, hperm⟩ := settleNames_spec hn
  have hnames : structs.map (·.name) = names :=
    (defineAll_spec hd).2.1.trans (List.map_snd_zip (Nat.le_of_eq hlen))
  have hheld : ∀ n ∈ scope₁.taken, n ∈ names ↔ n ∈ grantedNames cs := by
    intro n hn
    rw [← hperm.mem_iff, List.mem_append]
    constructor
    · rintro (hg | ho)
      · exact hg
      · exact absurd hn (hothers.fresh n ho)
    · exact .inl
  have hrenamed := settleNames_reports hn (candidates_refused hc) (fun _ hn => hn) hheld
  rw [defineAll_reports hd, hrenamed, candidates_zip hc hd hlen, collisionReports, hnames]

end Settling

end AbiBindings
