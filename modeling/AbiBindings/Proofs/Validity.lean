import AbiBindings.Bindings.Functions
import AbiBindings.Proofs.Parameters

namespace AbiBindings

/-- A parameter whose type can be read. A tuple must have parts, all of them valid. -/
inductive Parameter.Valid : Parameter → Prop
  | intro {p : Parameter} {t : TypeExpr} (parses : TypeExpr.parse p.typeText = .ok t)
    (nonempty : t.base = .tuple → p.components ≠ [])
    (parts : t.base = .tuple → ∀ q ∈ p.components, q.Valid) : p.Valid

/-- What is wrong with a parameter. Of the parts of a tuple the first wrong one decides. -/
inductive Parameter.Faulty (origin : String) : Parameter → Failure → Prop
  | unreadable {p : Parameter} {e : TypeExpr.ParseError}
    (h : TypeExpr.parse p.typeText = .error e) :
    Faulty origin p (.invalidType p.typeText origin (.unreadable e))
  | noParts {p : Parameter} {dims : List (Option Nat)}
    (h : TypeExpr.parse p.typeText = .ok ⟨.tuple, dims⟩) (hc : p.components = []) :
    Faulty origin p (.invalidType p.typeText origin .tupleWithoutComponents)
  | part {p q : Parameter} {dims : List (Option Nat)} {before after : List Parameter}
    {e : Failure} (h : TypeExpr.parse p.typeText = .ok ⟨.tuple, dims⟩)
    (hc : p.components = before ++ q :: after) (hb : ∀ x ∈ before, x.Valid)
    (hq : Faulty origin q e) : Faulty origin p e

/-- What is wrong with a list of parameters: the fault of the first that is not valid. -/
def FirstFaulty (origin : String) (ps : List Parameter) (e : Failure) : Prop :=
  ∃ before p after, ps = before ++ p :: after ∧ (∀ x ∈ before, x.Valid) ∧ p.Faulty origin e

/-- The declaration that a failure is put down to. -/
inductive Failure.Blames (origin : String) : Failure → Prop
  | invalidType (typeText : String) (fault : TypeFault) :
    Blames origin (.invalidType typeText origin fault)
  | tooManyIndexed (count limit : Nat) : Blames origin (.tooManyIndexed origin count limit)

section Spelling

variable {origin : String}

theorem Parameter.Faulty.blames {p : Parameter} {e : Failure} (h : p.Faulty origin e) :
    e.Blames origin := by
  induction h with
  | unreadable h => exact .invalidType _ _
  | noParts h hc => exact .invalidType _ _
  | part h hc hb hq ih => exact ih

/-- Without its own parts being wrong, a tuple's fault does not lie with stray tuples. -/
theorem Parameter.Faulty.ne_strayTuple {p : Parameter} {e : Failure} {typeText context : String}
    (h : p.Faulty origin e) : e ≠ .invalidType typeText context .strayTuple := by
  induction h with
  | unreadable h => simp
  | noParts h hc => simp
  | part h hc hb hq ih => exact ih

theorem FirstFaulty.cons {p : Parameter} {ps : List Parameter} {e : Failure} (hp : p.Valid)
    (h : FirstFaulty origin ps e) : FirstFaulty origin (p :: ps) e := by
  obtain ⟨before, q, after, rfl, hb, hq⟩ := h
  refine ⟨p :: before, q, after, rfl, ?_, hq⟩
  intro x hx
  rcases List.mem_cons.mp hx with rfl | hx
  · exact hp
  · exact hb x hx

theorem Parameter.typeExpr_elementary {p : Parameter} {b : Elementary} {dims : List (Option Nat)}
    (h : TypeExpr.parse p.typeText = .ok ⟨.elementary b, dims⟩) :
    p.typeExpr origin = .ok ⟨.elementary b, dims⟩ := by
  simp [typeExpr, h, TypeExpr.isTuple]

theorem Parameter.typeExpr_tuple {p : Parameter} {dims : List (Option Nat)}
    (h : TypeExpr.parse p.typeText = .ok ⟨.tuple, dims⟩) (hc : p.components ≠ []) :
    p.typeExpr origin = .ok ⟨.tuple, dims⟩ := by
  simp [typeExpr, h, hc]

theorem Parameter.canonical_error {p : Parameter} {e : Failure} (h : p.typeExpr origin = .error e) :
    p.canonical origin = .error e := by
  obtain ⟨name, typeText, internalType, components, indexed⟩ := p
  simp only [canonical, h]

theorem Parameter.canonical_elementary {p : Parameter} {b : Elementary} {dims : List (Option Nat)}
    (h : p.typeExpr origin = .ok ⟨.elementary b, dims⟩) :
    p.canonical origin = .ok (TypeExpr.text ⟨.elementary b, dims⟩) := by
  obtain ⟨name, typeText, internalType, components, indexed⟩ := p
  simp only [canonical, h, TypeExpr.isTuple, reduceCtorEq, decide_false, Bool.false_eq_true,
    ↓reduceIte]

theorem Parameter.canonical_tuple {p : Parameter} {dims : List (Option Nat)}
    (h : p.typeExpr origin = .ok ⟨.tuple, dims⟩) :
    p.canonical origin = (Parameter.canonicals origin p.components).map fun parts =>
      "(" ++ ",".intercalate parts ++ ")" ++ TypeExpr.suffix ⟨.tuple, dims⟩ := by
  obtain ⟨name, typeText, internalType, components, indexed⟩ := p
  simp only [canonical, h, TypeExpr.isTuple, decide_true, ↓reduceIte]

mutual

/-- A parameter is spelled when it is valid; else its fault is reported. -/
theorem canonical_cases (origin : String) : (p : Parameter) →
    (∃ s, p.canonical origin = .ok s ∧ p.Valid) ∨
      ∃ e, p.canonical origin = .error e ∧ p.Faulty origin e
  | ⟨name, typeText, internalType, components, indexed⟩ => by
    cases ht : TypeExpr.parse typeText with
    | error e =>
      refine .inr ⟨_, Parameter.canonical_error ?_, .unreadable ht⟩
      simp only [Parameter.typeExpr, ht]
    | ok t =>
      obtain ⟨base, dims⟩ := t
      cases base with
      | elementary b =>
        refine .inl ⟨_, Parameter.canonical_elementary (Parameter.typeExpr_elementary ht), ?_⟩
        exact .intro ht (by simp) (by simp)
      | tuple =>
        cases hc : components with
        | nil =>
          refine .inr ⟨_, Parameter.canonical_error ?_, .noParts ht rfl⟩
          simp [Parameter.typeExpr, ht, TypeExpr.isTuple]
        | cons q qs =>
          have hne : q :: qs ≠ [] := by simp
          have htype : Parameter.typeExpr origin
              ⟨name, typeText, internalType, q :: qs, indexed⟩ = .ok ⟨.tuple, dims⟩ :=
            Parameter.typeExpr_tuple ht hne
          rw [Parameter.canonical_tuple htype]
          rcases canonicals_cases origin (q :: qs) with ⟨ss, hs, hv⟩ | ⟨e, he, hf⟩
          · rw [hs]
            exact .inl ⟨_, rfl, .intro ht (fun _ => hne) fun _ => hv⟩
          · obtain ⟨before, x, after, hx, hb, hq⟩ := hf
            rw [he]
            exact .inr ⟨e, rfl, .part ht hx hb hq⟩

/-- Inputs have canonical texts, or the first faulty one is the reason that they have none. -/
theorem canonicals_cases (origin : String) : (ps : List Parameter) →
    (∃ ss, Parameter.canonicals origin ps = .ok ss ∧ ∀ p ∈ ps, p.Valid) ∨
      ∃ e, Parameter.canonicals origin ps = .error e ∧ FirstFaulty origin ps e
  | [] => .inl ⟨[], rfl, by simp⟩
  | p :: ps => by
    rcases canonical_cases origin p with ⟨s, hs, hv⟩ | ⟨e, he, hf⟩
    · rcases canonicals_cases origin ps with ⟨ss, hss, hvs⟩ | ⟨e, he, hf⟩
      · refine .inl ⟨s :: ss, ?_, List.forall_mem_cons.mpr ⟨hv, hvs⟩⟩
        simp only [Parameter.canonicals, hs, hss, Except.map]
      · refine .inr ⟨e, ?_, hf.cons hv⟩
        simp only [Parameter.canonicals, hs, he, Except.map]
    · refine .inr ⟨e, ?_, [], p, ps, rfl, by simp, hf⟩
      simp only [Parameter.canonicals, he]

end

/-- A list with a first wrong parameter is spelled up to there. -/
theorem canonicals_split {before after : List Parameter} {p : Parameter} {e : Failure}
    (hb : ∀ x ∈ before, ∃ s, x.canonical origin = .ok s) (hp : p.canonical origin = .error e) :
    Parameter.canonicals origin (before ++ p :: after) = .error e := by
  induction before with
  | nil => simp only [List.nil_append, Parameter.canonicals, hp]
  | cons x before ih =>
    obtain ⟨⟨s, hs⟩, hb⟩ := List.forall_mem_cons.mp hb
    simp only [List.cons_append, Parameter.canonicals, hs, ih hb, Except.map]

theorem canonicals_of_all {ps : List Parameter} (h : ∀ p ∈ ps, ∃ s, p.canonical origin = .ok s) :
    ∃ ss, Parameter.canonicals origin ps = .ok ss := by
  induction ps with
  | nil => exact ⟨[], rfl⟩
  | cons p ps ih =>
    obtain ⟨⟨s, hs⟩, hps⟩ := List.forall_mem_cons.mp h
    obtain ⟨ss, hss⟩ := ih hps
    exact ⟨s :: ss, by simp only [Parameter.canonicals, hs, hss, Except.map]⟩

theorem Parameter.Valid.canonical {p : Parameter} (h : p.Valid) :
    ∃ s, p.canonical origin = .ok s := by
  induction h with
  | intro parses nonempty parts ih =>
    rename_i p t
    obtain ⟨base, dims⟩ := t
    cases base with
    | elementary b => exact ⟨_, canonical_elementary (typeExpr_elementary parses)⟩
    | tuple =>
      obtain ⟨ss, hss⟩ := canonicals_of_all (ih rfl)
      rw [canonical_tuple (typeExpr_tuple parses (nonempty rfl)), hss]
      exact ⟨_, rfl⟩

theorem Parameter.Faulty.canonical {p : Parameter} {e : Failure} (h : p.Faulty origin e) :
    p.canonical origin = .error e := by
  induction h with
  | unreadable h => exact canonical_error (by simp only [typeExpr, h])
  | noParts h hc => exact canonical_error (by simp [typeExpr, h, TypeExpr.isTuple, hc])
  | part h hc hb hq ih =>
    rw [canonical_tuple (typeExpr_tuple h (by simp [hc])), hc,
      canonicals_split (fun x hx => (hb x hx).canonical) ih]
    rfl

theorem canonicals_ok_iff {ps : List Parameter} :
    (∃ ss, Parameter.canonicals origin ps = .ok ss) ↔ ∀ p ∈ ps, p.Valid := by
  constructor
  · rintro ⟨ss, hs⟩
    rcases canonicals_cases origin ps with ⟨_, _, hv⟩ | ⟨e, he, _⟩
    · exact hv
    · cases hs.symm.trans he
  · intro hv
    exact canonicals_of_all fun p hp => (hv p hp).canonical

theorem canonicals_error_iff {ps : List Parameter} {e : Failure} :
    Parameter.canonicals origin ps = .error e ↔ FirstFaulty origin ps e := by
  constructor
  · intro he
    rcases canonicals_cases origin ps with ⟨ss, hs, _⟩ | ⟨e', he', hf⟩
    · cases hs.symm.trans he
    · cases he'.symm.trans he
      exact hf
  · rintro ⟨before, p, after, rfl, hb, hp⟩
    exact canonicals_split (fun x hx => (hb x hx).canonical) hp.canonical

theorem FirstFaulty.unique {ps : List Parameter} {e e' : Failure} (h : FirstFaulty origin ps e)
    (h' : FirstFaulty origin ps e') : e = e' :=
  Except.error.inj ((canonicals_error_iff.mpr h).symm.trans (canonicals_error_iff.mpr h'))

theorem FirstFaulty.not_valid {ps : List Parameter} {e : Failure} (h : FirstFaulty origin ps e) :
    ¬ ∀ p ∈ ps, p.Valid := by
  intro hv
  obtain ⟨ss, hs⟩ := canonicals_ok_iff.mpr hv
  cases hs.symm.trans (canonicals_error_iff.mpr h)

end Spelling

section Passes

variable {origin : String} {mode : Representation}

/-- A type that is no tuple always resolves, if need be to a placeholder. -/
theorem resolvePlain_elementary (mode : Representation) (origin : String) (g : Gathered)
    (typeText : String) (b : Elementary) (dims : List (Option Nat)) :
    ∃ x, g.resolvePlain mode origin typeText ⟨.elementary b, dims⟩ = .ok x := by
  simp only [Gathered.resolvePlain, Memo.resolve]
  cases g.memo.lookup (TypeExpr.text ⟨.elementary b, dims⟩) with
  | some r => exact ⟨_, rfl⟩
  | none => cases mode.target b <;> exact ⟨_, rfl⟩

/-- Two results are there together, or missing for the same reason. -/
def SameFailure {α β : Type} (x : Except Failure α) (y : Except Failure β) : Prop :=
  (∃ a b, x = .ok a ∧ y = .ok b) ∨ ∃ e, x = .error e ∧ y = .error e

theorem resolveParameter_elementary {g : Gathered} {p : Parameter} {b : Elementary}
    {dims : List (Option Nat)} (h : p.typeExpr origin = .ok ⟨.elementary b, dims⟩) :
    resolveParameter mode origin g p =
      g.resolvePlain mode origin p.typeText ⟨.elementary b, dims⟩ := by
  obtain ⟨name, typeText, internalType, components, indexed⟩ := p
  simp only [resolveParameter, h, TypeExpr.isTuple, reduceCtorEq, decide_false, Bool.not_false,
    ↓reduceIte]

mutual

/-- A parameter resolves just when it can be spelled, whatever was gathered before. -/
theorem resolveParameter_sameFailure (g : Gathered) : (p : Parameter) →
    SameFailure (p.canonical origin) (resolveParameter mode origin g p)
  | ⟨name, typeText, internalType, components, indexed⟩ => by
    cases ht : Parameter.typeExpr origin ⟨name, typeText, internalType, components, indexed⟩ with
    | error e =>
      refine .inr ⟨e, Parameter.canonical_error ht, ?_⟩
      simp only [resolveParameter, ht]
    | ok t =>
      obtain ⟨base, dims⟩ := t
      cases base with
      | elementary b =>
        obtain ⟨x, hx⟩ := resolvePlain_elementary mode origin g typeText b dims
        refine .inl ⟨_, x, Parameter.canonical_elementary ht, ?_⟩
        rw [resolveParameter_elementary ht, hx]
      | tuple =>
        rw [Parameter.canonical_tuple ht]
        simp only [resolveParameter, ht, TypeExpr.isTuple, decide_true, Bool.not_true,
          Bool.false_eq_true, ↓reduceIte]
        rcases resolveParameters_sameFailure g components with ⟨ss, x, hs, hx⟩ | ⟨e, he, hx⟩
        · rw [hs, hx]
          exact .inl ⟨_, _, rfl, rfl⟩
        · rw [he, hx]
          exact .inr ⟨e, rfl, rfl⟩

/-- Resolving fails over the same parameter, and for the same reason, as spelling does. -/
theorem resolveParameters_sameFailure (g : Gathered) : (ps : List Parameter) →
    SameFailure (Parameter.canonicals origin ps) (resolveParameters mode origin g ps)
  | [] => .inl ⟨_, _, rfl, rfl⟩
  | p :: ps => by
    simp only [Parameter.canonicals, resolveParameters]
    rcases resolveParameter_sameFailure g p with ⟨s, ⟨r, g₁⟩, hs, hr⟩ | ⟨e, he, hr⟩
    · simp only [hs, hr]
      rcases resolveParameters_sameFailure g₁ ps with ⟨ss, x, hss, hx⟩ | ⟨e, he, hx⟩
      · simp only [hss, hx]
        exact .inl ⟨_, _, rfl, rfl⟩
      · simp only [he, hx]
        exact .inr ⟨e, rfl, rfl⟩
    · simp only [he, hr]
      exact .inr ⟨e, rfl, rfl⟩

end

/-- Valid parameters resolve, whatever was gathered before. -/
theorem resolveParameters_ok {ps : List Parameter} (g : Gathered) (h : ∀ p ∈ ps, p.Valid) :
    ∃ types g', resolveParameters mode origin g ps = .ok (types, g') := by
  obtain ⟨ss, hs⟩ := canonicals_ok_iff.mpr h
  rcases resolveParameters_sameFailure g ps with ⟨_, ⟨types, g'⟩, _, hx⟩ | ⟨e, he, _⟩
  · exact ⟨types, g', hx⟩
  · cases hs.symm.trans he

theorem resolveParameters_error {ps : List Parameter} {e : Failure} (g : Gathered)
    (h : FirstFaulty origin ps e) : resolveParameters mode origin g ps = .error e := by
  have hs := canonicals_error_iff.mpr h
  rcases resolveParameters_sameFailure g ps with ⟨ss, _, hss, _⟩ | ⟨e', he, hx⟩
  · cases hs.symm.trans hss
  · cases hs.symm.trans he
    exact hx

theorem Parameter.Valid.typeExpr {p : Parameter} (h : p.Valid) :
    ∃ t, p.typeExpr origin = .ok t := by
  obtain ⟨s, hs⟩ := h.canonical
  cases ht : p.typeExpr origin with
  | error e => cases hs.symm.trans (canonical_error ht)
  | ok t => exact ⟨t, rfl⟩

/-- The types of valid parameters can be read once more for the names of methods. -/
theorem methodParts_ok {ps : List Parameter} (h : ∀ p ∈ ps, p.Valid) :
    ∃ parts, methodParts origin ps = .ok parts := by
  induction ps with
  | nil => exact ⟨[], rfl⟩
  | cons p ps ih =>
    obtain ⟨hp, hps⟩ := List.forall_mem_cons.mp h
    obtain ⟨t, ht⟩ : ∃ t, p.typeExpr origin = .ok t := hp.typeExpr
    obtain ⟨parts, hparts⟩ := ih hps
    exact ⟨t.methodPart :: parts, by simp only [methodParts, ht, hparts, Except.map]⟩

end Passes

end AbiBindings
