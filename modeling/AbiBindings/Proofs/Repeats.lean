import AbiBindings.Proofs.KeptDeclarations

namespace AbiBindings

namespace Declaration

def sharesSignature (d d' : Declaration) : Bool :=
  match signature d.nameOrKind d.inputs d.describe,
    signature d'.nameOrKind d'.inputs d'.describe with
  | .ok sig, .ok sig' => sig = sig'
  | _, _ => false

/-- Declarations that are not told apart. Of a kind without names there is only one. -/
def SameAs (d d' : Declaration) : Prop :=
  d.kind = d'.kind ∧ (d.kind.isNamed = true → d.sharesSignature d' = true)

instance (d d' : Declaration) : Decidable (d.SameAs d') := inferInstanceAs (Decidable (_ ∧ _))

def Repeats (d : Declaration) (before : List Declaration) : Prop := ∃ d' ∈ before, d'.SameAs d

instance (d : Declaration) (before : List Declaration) : Decidable (d.Repeats before) :=
  inferInstanceAs (Decidable (∃ d' ∈ before, d'.SameAs d))

end Declaration

/-- What is kept of declarations that stand after others: those that repeat none before them. -/
def keptAfter (before : List Declaration) : List Declaration → List Declaration
  | [] => []
  | d :: ds =>
    if d.Repeats before then keptAfter (before ++ [d]) ds else d :: keptAfter (before ++ [d]) ds

def keptDeclarations (ds : List Declaration) : List Declaration := keptAfter [] ds

section Kept

variable {before xs ys ds : List Declaration} {d d' : Declaration} {sig sig' : String}

theorem keptAfter_append :
    keptAfter before (xs ++ ys) = keptAfter before xs ++ keptAfter (before ++ xs) ys := by
  induction xs generalizing before with
  | nil => simp [keptAfter]
  | cons d xs ih =>
    simp only [List.cons_append, keptAfter, ih, List.append_assoc, List.nil_append]
    split <;> simp

theorem keptDeclarations_append :
    keptDeclarations (before ++ ds) = keptDeclarations before ++ keptAfter before ds :=
  keptAfter_append

theorem Declaration.repeats_concat :
    d.Repeats (before ++ [d']) ↔ d.Repeats before ∨ d'.SameAs d := by
  simp only [Repeats, List.mem_append, List.mem_singleton]
  constructor
  · rintro ⟨x, hx | rfl, hs⟩
    · exact .inl ⟨x, hx, hs⟩
    · exact .inr hs
  · rintro (⟨x, hx, hs⟩ | hs)
    · exact ⟨x, .inl hx, hs⟩
    · exact ⟨d', .inr rfl, hs⟩

/-- Declarations with signatures are the same just when their identities are. -/
theorem Declaration.sameAs_iff (h : d.Signed sig) (h' : d'.Signed sig') :
    d.SameAs d' ↔ d.identity sig = d'.identity sig' := by
  have hshares : d.sharesSignature d' = decide (sig = sig') := by
    unfold sharesSignature
    rw [h, h']
  simp only [SameAs, hshares, decide_eq_true_eq]
  cases hk : d.kind.isNamed with
  | true =>
    rw [identity_eq_iff hk]
    simp [eq_comm]
  | false =>
    simp only [identity, hk, Bool.false_eq_true, false_imp_iff, and_true, ↓reduceIte,
      Prod.mk.injEq]
    constructor
    · intro he
      exact ⟨he, by rw [← he, hk, if_neg (by simp)]⟩
    · exact And.left

end Kept

/-- What was seen is what the declarations before were identified by. -/
def SeenIn (seen : List (Kind × String)) (before : List Declaration) : Prop :=
  ∀ (d : Declaration) (sig : String), d.Signed sig → (d.identity sig ∈ seen ↔ d.Repeats before)

namespace SeenIn

variable {seen : List (Kind × String)} {before : List Declaration} {d : Declaration} {sig : String}

theorem nil : SeenIn [] [] := by
  intro d sig _
  simp [Declaration.Repeats]

theorem repeated (h : SeenIn seen before) (hsig : d.Signed sig) (hm : d.identity sig ∈ seen) :
    SeenIn seen (before ++ [d]) := by
  intro d' sig' hsig'
  rw [Declaration.repeats_concat, ← h d' sig' hsig', Declaration.sameAs_iff hsig hsig']
  constructor
  · exact .inl
  · rintro (hm' | he)
    · exact hm'
    · exact he ▸ hm

theorem new (h : SeenIn seen before) (hsig : d.Signed sig) :
    SeenIn (d.identity sig :: seen) (before ++ [d]) := by
  intro d' sig' hsig'
  rw [Declaration.repeats_concat, ← h d' sig' hsig', Declaration.sameAs_iff hsig hsig',
    List.mem_cons, or_comm, eq_comm]

end SeenIn

/-- Resolving keeps the declarations that repeat none before them. -/
theorem resolveDeclarations_keeps {mode : Representation} {seen : List (Kind × String)}
    {g g' : Gathered} {before ds : List Declaration} {rs : List ResolvedDeclaration}
    (hseen : SeenIn seen before) (h : (resolveDeclarations mode seen g ds).2 = .ok (rs, g')) :
    rs.map (·.declaration) = keptAfter before ds := by
  induction ds generalizing seen g before rs with
  | nil =>
    cases h
    rfl
  | cons d ds ih =>
    obtain ⟨sig, hsig, ⟨hm, hrest⟩ | ⟨hm, r, g₁, rest, hr, hrest, rfl⟩⟩ :=
      resolveDeclarations_cons h
    · rw [keptAfter, if_pos ((hseen d sig hsig).mp hm)]
      exact ih (hseen.repeated hsig hm) hrest
    · rw [keptAfter, if_neg fun hrep => hm ((hseen d sig hsig).mpr hrep)]
      obtain ⟨_, _, _, _, _, rfl⟩ := Declaration.resolve_ok hr
      rw [List.map_cons, ih (hseen.new hsig) hrest]

end AbiBindings
