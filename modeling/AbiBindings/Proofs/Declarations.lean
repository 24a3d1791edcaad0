import AbiBindings.Proofs.Parameters
import AbiBindings.Resolution.Declarations

namespace AbiBindings

variable {mode : Representation}

namespace ResolvedDeclaration

/-- What resolving a declaration establishes, in terms of the shapes finally known. -/
structure Sound (mode : Representation) (keys : List ShapeKey) (r : ResolvedDeclaration) :
    Prop where
  origin : r.origin = r.declaration.describe
  signature : AbiBindings.signature r.declaration.nameOrKind r.declaration.inputs
    r.declaration.describe = .ok r.signature
  inputs : Settled mode keys r.declaration.inputs r.inputs
  outputs : Settled mode keys r.declaration.results r.outputs

theorem Sound.mono {keys keys' : List ShapeKey} {r : ResolvedDeclaration}
    (h : r.Sound mode keys) (hk : keys <+: keys') : r.Sound mode keys' :=
  ⟨h.origin, h.signature, h.inputs.mono hk, h.outputs.mono hk⟩

end ResolvedDeclaration

section Declarations

variable {seen : List (Kind × String)} {d : Declaration} {ds : List Declaration}
variable {g g' : Gathered} {r : ResolvedDeclaration} {rs : List ResolvedDeclaration}

/-- A declaration is resolved by its inputs first and its results after them. -/
theorem Declaration.resolve_ok {sig : String} (h : d.resolve mode g sig = .ok (r, g')) :
    ∃ inputs g₁ outputs, resolveParameters mode d.describe g d.inputs = .ok (inputs, g₁) ∧
      resolveParameters mode d.describe g₁ d.results = .ok (outputs, g') ∧
      r = ⟨d, d.describe, sig, inputs, outputs⟩ := by
  simp only [Declaration.resolve] at h
  split at h
  · cases h
  · split at h
    · cases h
    · rename_i inputs g₁ hi
      split at h
      · cases h
      · rename_i outputs g₂ ho
        cases h
        exact ⟨inputs, g₁, outputs, hi, ho, rfl⟩

theorem Declaration.resolve_checked {sig : String} (h : d.resolve mode g sig = .ok (r, g')) :
    d.checkIndexed = .ok () := by
  simp only [Declaration.resolve] at h
  split at h
  · cases h
  · assumption

/-- A declaration is left out or resolved, as its identity was seen or not. -/
theorem resolveDeclarations_cons
    (h : (resolveDeclarations mode seen g (d :: ds)).2 = .ok (rs, g')) :
    ∃ sig, signature d.nameOrKind d.inputs d.describe = .ok sig ∧
      ((d.identity sig ∈ seen ∧ (resolveDeclarations mode seen g ds).2 = .ok (rs, g')) ∨
      (d.identity sig ∉ seen ∧ ∃ r g₁ rest, d.resolve mode g sig = .ok (r, g₁) ∧
        (resolveDeclarations mode (d.identity sig :: seen) g₁ ds).2 = .ok (rest, g') ∧
        rs = r :: rest)) := by
  simp only [resolveDeclarations] at h
  split at h
  · cases h
  · rename_i sig hsig
    refine ⟨sig, hsig, ?_⟩
    split at h
    · rename_i hm
      exact .inl ⟨hm, h⟩
    · rename_i hm
      refine .inr ⟨hm, ?_⟩
      split at h
      · cases h
      · rename_i r g₁ hr
        obtain ⟨⟨rest, g₂⟩, hrest, he⟩ := except_map_ok.mp h
        cases he
        exact ⟨r, g₁, rest, hr, hrest, rfl⟩

theorem Declaration.losses_resolve {sig : String} (h : d.resolve mode g sig = .ok (r, g')) :
    g.losses <+: g'.losses := by
  obtain ⟨_, _, _, hi, ho, _⟩ := Declaration.resolve_ok h
  exact (losses_resolveParameters _ hi).trans (losses_resolveParameters _ ho)

theorem losses_resolveDeclarations
    (h : (resolveDeclarations mode seen g ds).2 = .ok (rs, g')) : g.losses <+: g'.losses := by
  induction ds generalizing seen g rs with
  | nil =>
    cases h
    exact List.prefix_refl _
  | cons d ds ih =>
    obtain ⟨sig, _, ⟨_, hrest⟩ | ⟨_, r, g₁, rest, hr, hrest, _⟩⟩ := resolveDeclarations_cons h
    · exact ih hrest
    · exact (Declaration.losses_resolve hr).trans (ih hrest)

/-- Resolving a declaration without loss is sound, and keeps the shapes known before. -/
theorem Declaration.resolve_spec {sig : String} (hs : g.Sound mode) (hl : g'.losses = [])
    (hsig : signature d.nameOrKind d.inputs d.describe = .ok sig)
    (h : d.resolve mode g sig = .ok (r, g')) :
    g'.Sound mode ∧ g.Keeps g' ∧ r.Sound mode g'.shapes.keys := by
  obtain ⟨inputs, g₁, outputs, hi, ho, rfl⟩ := Declaration.resolve_ok h
  have hl₁ : g₁.losses = [] := List.prefix_nil.mp (hl ▸ losses_resolveParameters _ ho)
  obtain ⟨hs₁, hk₁, hin⟩ := resolveParameters_settled hs hl₁ hi
  obtain ⟨hs', hk, hout⟩ := resolveParameters_settled hs₁ hl ho
  exact ⟨hs', hk₁.trans hk, rfl, hsig, hin.mono hk, hout⟩

/-- Without losses, every declaration kept is sound among the shapes known at the end. -/
theorem resolveDeclarations_spec (hs : g.Sound mode) (hl : g'.losses = [])
    (h : (resolveDeclarations mode seen g ds).2 = .ok (rs, g')) :
    g'.Sound mode ∧ g.Keeps g' ∧ ∀ r ∈ rs, r.Sound mode g'.shapes.keys := by
  induction ds generalizing seen g rs with
  | nil =>
    cases h
    exact ⟨hs, .refl _, by simp⟩
  | cons d ds ih =>
    obtain ⟨sig, hsig, ⟨_, hrest⟩ | ⟨_, r, g₁, rest, hr, hrest, rfl⟩⟩ := resolveDeclarations_cons h
    · exact ih hs hrest
    · have hl₁ : g₁.losses = [] := List.prefix_nil.mp (hl ▸ losses_resolveDeclarations hrest)
      obtain ⟨hs₁, hk₁, hsound⟩ := Declaration.resolve_spec hs hl₁ hsig hr
      obtain ⟨hs', hk, hall⟩ := ih hs₁ hrest
      refine ⟨hs', hk₁.trans hk, ?_⟩
      intro r' hr'
      rcases List.mem_cons.mp hr' with rfl | hr'
      · exact hsound.mono hk
      · exact hall r' hr'

/-- Every declaration kept has room for its indexed inputs. -/
theorem resolveDeclarations_checked
    (h : (resolveDeclarations mode seen g ds).2 = .ok (rs, g')) :
    ∀ r ∈ rs, r.declaration.checkIndexed = .ok () := by
  induction ds generalizing seen g rs with
  | nil =>
    cases h
    simp
  | cons d ds ih =>
    obtain ⟨sig, _, ⟨_, hrest⟩ | ⟨_, r, g₁, rest, hr, hrest, rfl⟩⟩ := resolveDeclarations_cons h
    · exact ih hrest
    · have hcheck := Declaration.resolve_checked hr
      obtain ⟨_, _, _, _, _, rfl⟩ := Declaration.resolve_ok hr
      intro r' hr'
      rcases List.mem_cons.mp hr' with rfl | hr'
      · exact hcheck
      · exact ih hrest r' hr'

/-- Of a kind without names, the first declaration is kept. -/
theorem resolveDeclarations_find (kind : Kind) (hk : kind.isNamed = false)
    (hseen : (kind, "") ∉ seen) (h : (resolveDeclarations mode seen g ds).2 = .ok (rs, g')) :
    (rs.find? fun r => r.declaration.kind = kind).map (·.declaration) =
      ds.find? fun d => d.kind = kind := by
  induction ds generalizing seen g rs with
  | nil =>
    cases h
    rfl
  | cons d ds ih =>
    obtain ⟨sig, _, ⟨hm, hrest⟩ | ⟨_, r, g₁, rest, hr, hrest, rfl⟩⟩ := resolveDeclarations_cons h
    · have hd : d.kind ≠ kind := by
        rintro rfl
        simp only [Declaration.identity, hk, Bool.false_eq_true, ↓reduceIte] at hm
        exact hseen hm
      rw [List.find?_cons_of_neg (by simpa using hd)]
      exact ih hseen hrest
    · obtain ⟨_, _, _, _, _, rfl⟩ := Declaration.resolve_ok hr
      by_cases hd : d.kind = kind
      · simp [List.find?_cons_of_pos, hd]
      · rw [List.find?_cons_of_neg (by simpa using hd), List.find?_cons_of_neg (by simpa using hd)]
        refine ih ?_ hrest
        simp [Declaration.identity, hseen, Ne.symm hd]

end Declarations

end AbiBindings
