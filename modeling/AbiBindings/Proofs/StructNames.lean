import AbiBindings.Proofs.Collisions
import AbiBindings.Proofs.InternRuns

namespace AbiBindings

def ShapeTable.wantedNames (table : ShapeTable) : List String :=
  table.mapIdx fun id shape => shape.wanted id

/-- What the shape at a place finds in use when it takes a numbered name: what was in use at first,
what any shape has as it wanted it, and what the shapes before have. -/
def InUse (scope : Scope) (wanted names : List String) (i : Nat) (name : String) : Prop :=
  name ∈ scope.taken ∨ (∃ j : Nat, wanted[j]? = some name ∧ names[j]? = some name) ∨
    name ∈ names.take i

/-- Names settled by what is wanted. A shape has the name it wants just when that is free and wanted by
no shape before. Every other shape adds the least number from two on that makes a name not in use,
so that what it has is what no shape wants. -/
structure NamesSettled (scope : Scope) (wanted names : List String) : Prop where
  length : names.length = wanted.length
  kept : ∀ (i : Nat) w n, wanted[i]? = some w → names[i]? = some n →
    (n = w ↔ w ∉ scope.taken ∧ w ∉ wanted.take i)
  numbered : ∀ (i : Nat) w n, wanted[i]? = some w → names[i]? = some n → n ≠ w →
    ∃ k, 2 ≤ k ∧ n = w ++ toString k ∧ ¬ InUse scope wanted names i n ∧
      ∀ m, 2 ≤ m → m < k → InUse scope wanted names i (w ++ toString m)
  unwanted : ∀ (i : Nat) w n, wanted[i]? = some w → names[i]? = some n → n ≠ w → n ∉ wanted

/-- A holder named for the name that the shape at a place wanted and could not have: the contract
handle just when it is the contract's, another shape just when one has it, and else an import. -/
structure HolderSettled (scope : Scope) (contractType : String) (names : List String) (i : Nat)
    (wanted : String) (holder : Holder) : Prop where
  contract : holder = .contractHandle ↔ wanted = contractType
  other : holder = .otherShape ↔ ∃ j : Nat, j ≠ i ∧ names[j]? = some wanted
  imported : holder = .imported ↔ wanted ≠ contractType ∧ wanted ∈ scope.taken

section Candidates

variable {table : ShapeTable} {id : StructId} {scope scope' : Scope} {cs : List Candidate}

theorem candidates_wanted (h : candidates id scope table = (cs, scope')) :
    cs.map (·.wanted) = table.mapIdx fun i shape => shape.wanted (id + i) := by
  induction table generalizing id scope cs with
  | nil =>
    cases h
    rfl
  | cons shape table ih =>
    obtain ⟨_, _, rest, _, hr, rfl⟩ := candidates_cons h
    rw [List.map_cons, ih hr, List.mapIdx_cons]
    simp only [Nat.add_zero, Nat.add_assoc, Nat.add_comm 1]

/-- Once all shapes have tried, every name that one of them wants is in use. -/
theorem candidates_claimed (h : candidates id scope table = (cs, scope')) :
    ∀ c ∈ cs, c.wanted ∈ scope'.taken := by
  intro c hc
  cases hg : c.granted with
  | true =>
    have hmem : c.wanted ∈ grantedNames cs :=
      List.mem_map_of_mem (List.mem_filter.mpr ⟨hc, hg⟩)
    exact (candidates_spec h).2.taken.mem_iff.mpr (List.mem_append_left _ hmem)
  | false => exact candidates_refused h c hc hg

/-- A try succeeds when the name is free and no try before was for it. -/
theorem candidates_granted (h : candidates id scope table = (cs, scope')) {i : Nat} {c : Candidate}
    (hc : cs[i]? = some c) :
    c.granted = true ↔ c.wanted ∉ scope.taken ∧ c.wanted ∉ (cs.map (·.wanted)).take i := by
  induction table generalizing id scope cs i with
  | nil =>
    cases h
    cases hc
  | cons shape table ih =>
    obtain ⟨granted, scope₁, rest, ht, hr, rfl⟩ := candidates_cons h
    cases i with
    | zero =>
      cases hc
      cases granted with
      | true => simpa using (Scope.tryClaim_true ht).1
      | false => simpa using (Scope.tryClaim_false ht).1
    | succ i =>
      rw [ih hr hc, List.map_cons, List.take_succ_cons, List.mem_cons]
      -- Behind a try its name is in use, whether it was free or not.
      have hscope : c.wanted ∉ scope₁.taken ↔
          c.wanted ∉ scope.taken ∧ c.wanted ≠ shape.wanted id := by
        cases granted with
        | true =>
          obtain ⟨_, rfl⟩ := Scope.tryClaim_true ht
          simp [and_comm]
        | false =>
          obtain ⟨hm, rfl⟩ := Scope.tryClaim_false ht
          exact ⟨fun hn => ⟨hn, fun he => hn (he ▸ hm)⟩, And.left⟩
      rw [hscope, not_or, and_assoc]

end Candidates

section Settling

variable {scope scope' : Scope} {contractType : String} {cs : List Candidate}
variable {granted names : List String} {ds : List Diagnostic}

/-- When all names wanted are in use, a shape has its own, or the least numbered one that is neither in
use nor given to a shape before. -/
theorem settleNames_places (h : settleNames contractType granted scope cs = (names, ds, scope'))
    (hin : ∀ c ∈ cs, c.wanted ∈ scope.taken) {i : Nat} {c : Candidate} {n : String}
    (hc : cs[i]? = some c) (hn : names[i]? = some n) :
    (c.granted = true ∧ n = c.wanted) ∨
    (c.granted = false ∧ n ∉ scope.taken ∧ n ∉ names.take i ∧
      ∃ k, 2 ≤ k ∧ n = c.wanted ++ toString k ∧ ∀ m, 2 ≤ m → m < k →
        c.wanted ++ toString m ∈ scope.taken ∨ c.wanted ++ toString m ∈ names.take i) := by
  induction cs generalizing granted scope names ds i with
  | nil => cases hc
  | cons head cs ih =>
    obtain ⟨hhead, htail⟩ := List.forall_mem_cons.mp hin
    rcases settleNames_cons h with ⟨hg, rest, ds₁, hr, rfl⟩ |
      ⟨hg, renamed, scope₁, rest, ds₁, hclaim, hr, rfl⟩
    · cases i with
      | zero =>
        cases hc
        cases hn
        exact .inl ⟨hg, rfl⟩
      | succ i =>
        rcases ih hr htail hc hn with hown | ⟨hrefused, hfree, hbefore, k, hk, rfl, hleast⟩
        · exact .inl hown
        · refine .inr ⟨hrefused, hfree, ?_, k, hk, rfl, fun m hm hmk => ?_⟩
          · rw [List.take_succ_cons, List.mem_cons, not_or]
            exact ⟨fun he => hfree (he ▸ hhead), hbefore⟩
          · exact (hleast m hm hmk).imp_right fun hm => List.mem_cons_of_mem _ hm
    · obtain ⟨rfl, hnew, ⟨hfree, _⟩ | ⟨_, k, hk, hname, hleast⟩⟩ := Scope.claimNumbered_cases hclaim
      · exact absurd hhead hfree
      · have hnumbered : ∀ m, Scope.numbered head.wanted "" m = head.wanted ++ toString m := by
          intro m
          rw [Scope.numbered, String.append_empty]
        simp only [hnumbered] at hname hleast
        cases i with
        | zero =>
          cases hc
          cases hn
          exact .inr ⟨hg, hnew, by simp, k, hk, hname, fun m hm hmk => .inl (hleast m hm hmk)⟩
        | succ i =>
          have hclaimed : ∀ c ∈ cs, c.wanted ∈ renamed :: scope.taken :=
            fun c hc => List.mem_cons_of_mem _ (htail c hc)
          rcases ih hr hclaimed hc hn with hown | ⟨hrefused, hfree', hbefore, k, hk, rfl, hleast'⟩
          · exact .inl hown
          · rw [List.mem_cons, not_or] at hfree'
            refine .inr ⟨hrefused, hfree'.2, ?_, k, hk, rfl, fun m hm hmk => ?_⟩
            · rw [List.take_succ_cons, List.mem_cons, not_or]
              exact ⟨hfree'.1, hbefore⟩
            · rw [List.take_succ_cons, List.mem_cons]
              rcases hleast' m hm hmk with hm | hm
              · exact (List.mem_cons.mp hm).elim (.inr ∘ .inl) .inl
              · exact .inr (.inr hm)

end Settling

section Holders

variable {contractType name : String} {names : List String}

theorem holderOf_contract :
    holderOf contractType names name = .contractHandle ↔ name = contractType := by
  unfold holderOf
  split <;> grind

theorem holderOf_other : holderOf contractType names name = .otherShape ↔
    name ≠ contractType ∧ name ∈ names := by
  unfold holderOf
  split <;> grind

theorem holderOf_imported : holderOf contractType names name = .imported ↔
    name ≠ contractType ∧ name ∉ names := by
  unfold holderOf
  split <;> grind

end Holders

section Naming

variable {table : ShapeTable} {scope scope₁ scope' : Scope} {contractType : String}
variable {cs : List Candidate} {granted names : List String} {ds : List Diagnostic}

/-- Once all shapes have tried, what is in use is what was and what a shape has as it wanted it. -/
theorem candidates_taken (hc : candidates 0 scope table = (cs, scope₁))
    (hs : settleNames contractType granted scope₁ cs = (names, ds, scope')) (name : String) :
    name ∈ scope₁.taken ↔ name ∈ scope.taken ∨
      ∃ j : Nat, (cs.map (·.wanted))[j]? = some name ∧ names[j]? = some name := by
  have hlen := (settleNames_spec hs).1
  have hclaimed := candidates_claimed hc
  rw [(candidates_spec hc).2.taken.mem_iff, List.mem_append, or_comm]
  refine or_congr_right ⟨fun hm => ?_, ?_⟩
  · obtain ⟨c, hc, rfl⟩ := List.mem_map.mp hm
    obtain ⟨hc, hg⟩ := List.mem_filter.mp hc
    obtain ⟨j, hj⟩ := List.getElem?_of_mem hc
    obtain ⟨n, hn⟩ : ∃ n, names[j]? = some n :=
      ⟨_, List.getElem?_eq_getElem (hlen ▸ (List.getElem?_eq_some_iff.mp hj).1)⟩
    refine ⟨j, by rw [List.getElem?_map, hj, Option.map_some], ?_⟩
    rcases settleNames_places hs hclaimed hj hn with ⟨_, rfl⟩ | ⟨hrefused, _⟩
    · exact hn
    · rw [hg] at hrefused
      cases hrefused
  · rintro ⟨j, hj, hn⟩
    rw [List.getElem?_map] at hj
    obtain ⟨c, hi, rfl⟩ := Option.map_eq_some_iff.mp hj
    have hc : c ∈ cs := List.mem_of_getElem? hi
    rcases settleNames_places hs hclaimed hi hn with ⟨hg, _⟩ | ⟨_, hfree, _⟩
    · exact List.mem_map_of_mem (List.mem_filter.mpr ⟨hc, hg⟩)
    · exact absurd (hclaimed c hc) hfree

/-- Giving out the names wanted first, and numbers after them, settles all names. -/
theorem settleNames_settled (hc : candidates 0 scope table = (cs, scope₁))
    (hs : settleNames contractType granted scope₁ cs = (names, ds, scope')) :
    NamesSettled scope (cs.map (·.wanted)) names := by
  have hclaimed := candidates_claimed hc
  have hinUse : ∀ i n, InUse scope (cs.map (·.wanted)) names i n ↔
      n ∈ scope₁.taken ∨ n ∈ names.take i := by
    intro i n
    rw [InUse, candidates_taken hc hs, or_assoc]
  have hplace : ∀ (i : Nat) w, (cs.map (·.wanted))[i]? = some w →
      ∃ c, cs[i]? = some c ∧ w = c.wanted ∧ w ∈ scope₁.taken := by
    intro i w hw
    rw [List.getElem?_map] at hw
    obtain ⟨c, hi, rfl⟩ := Option.map_eq_some_iff.mp hw
    exact ⟨c, hi, rfl, hclaimed c (List.mem_of_getElem? hi)⟩
  refine ⟨by rw [(settleNames_spec hs).1, List.length_map], ?_, ?_, ?_⟩
  · intro i w n hw hn
    obtain ⟨c, hi, rfl, hused⟩ := hplace i w hw
    rw [← candidates_granted hc hi]
    rcases settleNames_places hs hclaimed hi hn with ⟨hg, rfl⟩ | ⟨hg, hfree, _⟩
    · exact ⟨fun _ => hg, fun _ => rfl⟩
    · exact ⟨fun he => absurd (he ▸ hused) hfree, fun ht => absurd (ht.symm.trans hg) nofun⟩
  · intro i w n hw hn hne
    obtain ⟨c, hi, rfl, hused⟩ := hplace i w hw
    rcases settleNames_places hs hclaimed hi hn with ⟨_, he⟩ | ⟨_, hfree, hbefore, k, hk, hname, hle⟩
    · exact absurd he hne
    · refine ⟨k, hk, hname, ?_, fun m hm hmk => (hinUse i _).mpr (hle m hm hmk)⟩
      rw [hinUse, not_or]
      exact ⟨hfree, hbefore⟩
  · intro i w n hw hn hne hmem
    obtain ⟨c, hi, rfl, hused⟩ := hplace i w hw
    obtain ⟨c', hc', rfl⟩ := List.mem_map.mp hmem
    rcases settleNames_places hs hclaimed hi hn with ⟨_, he⟩ | ⟨_, hfree, _⟩
    · exact hne he
    · exact hfree (hclaimed c' hc')

/-- The first shape that wants a free name has it. -/
theorem NamesSettled.first_wanting {wanted : List String} (h : NamesSettled scope wanted names)
    {w : String} (hw : w ∈ wanted) (hfree : w ∉ scope.taken) :
    ∃ j : Nat, names[j]? = some w ∧ wanted[j]? = some w := by
  have hj := List.getElem?_idxOf hw
  obtain ⟨n, hn⟩ : ∃ n, names[wanted.idxOf w]? = some n :=
    ⟨_, List.getElem?_eq_getElem (h.length ▸ List.idxOf_lt_length_of_mem hw)⟩
  have hfirst : w ∉ wanted.take (wanted.idxOf w) := by
    rw [List.mem_take_iff_idxOf_lt hw]
    exact Nat.lt_irrefl _
  obtain rfl := (h.kept _ w n hj hn).mpr ⟨hfree, hfirst⟩
  exact ⟨_, hn, hj⟩

/-- Who is reported as holding a name is who has it in the end. -/
theorem NamesSettled.holder {wanted : List String} (h : NamesSettled scope wanted names)
    (hgrants : scope.Grants names scope') (hcontract : contractType ∈ scope.taken) {i : Nat}
    {w n : String} (hw : wanted[i]? = some w) (hn : names[i]? = some n) (hne : n ≠ w) :
    HolderSettled scope contractType names i w (holderOf contractType names w) := by
  have hfresh : w ∈ names → w ∉ scope.taken := hgrants.fresh w
  have hused : w ∉ names → w ∈ scope.taken := by
    intro hnot
    by_contra hfree
    obtain ⟨j, hj, _⟩ := h.first_wanting (List.mem_of_getElem? hw) hfree
    exact hnot (List.mem_of_getElem? hj)
  have hother : w ∈ names ↔ ∃ j : Nat, j ≠ i ∧ names[j]? = some w := by
    refine ⟨fun hm => ?_, fun ⟨_, _, hj⟩ => List.mem_of_getElem? hj⟩
    obtain ⟨j, hj⟩ := List.getElem?_of_mem hm
    refine ⟨j, ?_, hj⟩
    rintro rfl
    exact hne (Option.some.inj (hn.symm.trans hj))
  have himported : w ∉ names ↔ w ∈ scope.taken := ⟨hused, fun hm hn => hfresh hn hm⟩
  have hforeign : w ∈ names → w ≠ contractType := fun hm he => hfresh hm (he ▸ hcontract)
  refine ⟨holderOf_contract, ?_, ?_⟩
  · rw [holderOf_other, ← hother, and_iff_right_of_imp hforeign]
  · rw [holderOf_imported, himported]

theorem ShapeTable.name_settled {structs : List StructDefinition}
    (h : table.name scope contractType = (structs, ds, scope')) :
    NamesSettled scope table.wantedNames (structs.map (·.name)) := by
  obtain ⟨cs, scope₁, names, renamed, fieldsRenamed, hc, hs, hd, rfl, hlen⟩ := name_ok h
  have hnames : structs.map (·.name) = names :=
    (defineAll_spec hd).2.1.trans (List.map_snd_zip (Nat.le_of_eq hlen))
  have hwanted : cs.map (·.wanted) = table.wantedNames := by
    simp only [candidates_wanted hc, Nat.zero_add, wantedNames]
  rw [hnames, ← hwanted]
  exact settleNames_settled hc hs

end Naming

/-- Whatever tuples are mentioned, each shape wants the name its first hint gives. The names that the
shapes get are settled by these, and the diagnostics report just the structs that have another one,
with who holds the name wanted, and after them the fields renamed. -/
theorem struct_names_settled (requests : List ShapeRequest) (scope scope' : Scope)
    (contractType : String) (structs : List StructDefinition) (ds : List Diagnostic)
    (hcontract : contractType ∈ scope.taken)
    (h : (ShapeTable.internAll [] requests).name scope contractType = (structs, ds, scope')) :
    let table := ShapeTable.internAll [] requests
    let names := structs.map (·.name)
    table.MadeBy requests ∧ structs.map (·.id) = List.range table.length ∧
      NamesSettled scope table.wantedNames names ∧
      ds = collisionReports contractType table structs ++ structs.flatMap (·.fieldReports) ∧
      ∀ (i : Nat) w n, table.wantedNames[i]? = some w → names[i]? = some n → n ≠ w →
        HolderSettled scope contractType names i w (holderOf contractType names w) := by
  intro table names
  obtain ⟨hbodies, hids, _, hgrants⟩ := ShapeTable.name_spec h
  have hlen : structs.length = table.length := by
    simpa using congrArg List.length hbodies
  have hsettled := ShapeTable.name_settled h
  refine ⟨ShapeTable.MadeBy.nil.internAll requests, by rw [hids, hlen], hsettled,
    ShapeTable.name_reports h, ?_⟩
  intro i w n hw hn hne
  exact hsettled.holder hgrants hcontract hw hn hne

/-- Two points, a shape that wants the number the second would get first, one called like the
contract's handle and one like an import. -/
def marketRequests : List ShapeRequest :=
  let word : Resolved := ⟨.elementary (.uint 256), .wideUint, false⟩
  [⟨some "Point", [("x", word)], "function `walk()`"⟩,
    ⟨some "point", [("y", word)], "function `run()`"⟩,
    ⟨some "Point2", [("z", word)], "function `run()`"⟩,
    ⟨some "Market", [("a", word)], "function `trade()`"⟩,
    ⟨some "Address", [("b", word)], "function `trade()`"⟩,
    ⟨some "Walk", [("x", word)], "function `trade()`"⟩]

/-- The second point passes over the number that a shape after it wants. -/
theorem struct_names_settled_market :
    let scope := Scope.reserving ["Market", "Address"]
    let table := ShapeTable.internAll [] marketRequests
    let named := table.name scope "Market"
    let names := ["Point", "Point3", "Point2", "Market2", "Address2"]
    "Market" ∈ scope.taken ∧ named.1.map (·.name) = names ∧
      NamesSettled scope table.wantedNames names ∧
      named.2.1 = collisionReports "Market" table named.1 ∧
      HolderSettled scope "Market" names 1 "Point" .otherShape ∧
      HolderSettled scope "Market" names 3 "Market" .contractHandle ∧
      HolderSettled scope "Market" names 4 "Address" .imported := by
  intro scope table named names
  have hcontract : "Market" ∈ scope.taken := List.mem_cons_self
  have hnames : named.1.map (·.name) = names := by decide +kernel
  have hfields : named.1.flatMap (·.fieldReports) = [] := by decide +kernel
  have hwanted : table.wantedNames = ["Point", "Point", "Point2", "Market", "Address"] := by
    decide +kernel
  obtain ⟨_, _, hsettled, hreports, hholder⟩ :=
    struct_names_settled marketRequests scope named.2.2 "Market" named.1 named.2.1 hcontract rfl
  rw [hfields, List.append_nil] at hreports
  rw [hnames] at hsettled hholder
  rw [hwanted] at hholder
  exact ⟨hcontract, hnames, hsettled, hreports, hholder 1 _ "Point3" rfl rfl (by decide),
    hholder 3 _ "Market2" rfl rfl (by decide), hholder 4 _ "Address2" rfl rfl (by decide)⟩

end AbiBindings
