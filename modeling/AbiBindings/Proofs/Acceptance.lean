import AbiBindings.Proofs.Completeness
import AbiBindings.Proofs.Losses
import AbiBindings.Proofs.Repeats
import AbiBindings.Proofs.Validity

namespace AbiBindings

namespace Declaration

/-- What is asked of a declaration that is kept, beyond inputs that can be read. -/
structure Admissible (d : Declaration) : Prop where
  indexed : d.kind = .event → d.inputs.countP (·.indexed) ≤ if d.anonymous then 4 else 3
  outputs : d.kind = .function → ∀ p ∈ d.outputs, p.Valid

/-- The failure that a declaration is the cause of. What repeats a declaration before it is asked
for its inputs only. -/
inductive Breaks (before : List Declaration) (d : Declaration) : Failure → Prop
  | input {e : Failure} (h : FirstFaulty d.describe d.inputs e) : Breaks before d e
  | indexed (new : ¬ d.Repeats before) (inputs : ∀ p ∈ d.inputs, p.Valid) (event : d.kind = .event)
    (surplus : (if d.anonymous then 4 else 3) < d.inputs.countP (·.indexed)) :
    Breaks before d (.tooManyIndexed d.describe (d.inputs.countP (·.indexed))
      (if d.anonymous then 4 else 3))
  | output {e : Failure} (new : ¬ d.Repeats before) (inputs : ∀ p ∈ d.inputs, p.Valid)
    (function : d.kind = .function) (h : FirstFaulty d.describe d.outputs e) : Breaks before d e

end Declaration

/-- Declarations that bindings can be made for. -/
structure Acceptable (ds : List Declaration) : Prop where
  inputs : ∀ d ∈ ds, ∀ p ∈ d.inputs, p.Valid
  kept : ∀ d ∈ keptDeclarations ds, d.Admissible

/-- The failure that the first declaration to break something is the cause of. -/
def FirstBreak (ds : List Declaration) (e : Failure) : Prop :=
  ∃ before d after, ds = before ++ d :: after ∧ Acceptable before ∧ d.Breaks before e

section Breaking

variable {before ds : List Declaration} {d : Declaration} {e e' : Failure} {origin : String}

theorem FirstFaulty.blames {ps : List Parameter} (h : FirstFaulty origin ps e) :
    e.Blames origin := by
  obtain ⟨_, _, _, _, _, hp⟩ := h
  exact hp.blames

theorem Declaration.Breaks.blames (h : d.Breaks before e) : e.Blames d.describe := by
  cases h with
  | input h => exact h.blames
  | indexed new inputs event surplus => exact .tooManyIndexed _ _
  | output new inputs function h => exact h.blames

theorem Declaration.Breaks.ne_strayTuple {typeText context : String} (h : d.Breaks before e) :
    e ≠ .invalidType typeText context .strayTuple := by
  cases h with
  | input h =>
    obtain ⟨_, _, _, _, _, hp⟩ := h
    exact hp.ne_strayTuple
  | indexed new inputs event surplus => simp
  | output new inputs function h =>
    obtain ⟨_, _, _, _, _, hp⟩ := h
    exact hp.ne_strayTuple

theorem Declaration.Breaks.unique (h : d.Breaks before e) (h' : d.Breaks before e') : e = e' := by
  cases h with
  | input h =>
    cases h' with
    | input h' => exact h.unique h'
    | indexed new inputs event surplus => exact absurd inputs h.not_valid
    | output new inputs function h' => exact absurd inputs h.not_valid
  | indexed new inputs event surplus =>
    cases h' with
    | input h' => exact absurd inputs h'.not_valid
    | indexed => rfl
    | output new inputs function h' => cases event.symm.trans function
  | output new inputs function h =>
    cases h' with
    | input h' => exact absurd inputs h'.not_valid
    | indexed new inputs event surplus => cases event.symm.trans function
    | output new inputs function h' => exact h.unique h'

theorem acceptable_nil : Acceptable [] :=
  ⟨by simp, by simp [keptDeclarations, keptAfter]⟩

theorem acceptable_concat : Acceptable (before ++ [d]) ↔
    Acceptable before ∧ (∀ p ∈ d.inputs, p.Valid) ∧ (¬ d.Repeats before → d.Admissible) := by
  have hkept : (∀ c ∈ keptAfter before [d], c.Admissible) ↔
      (¬ d.Repeats before → d.Admissible) := by
    simp only [keptAfter]
    split <;> simp [*]
  constructor
  · rintro ⟨hi, hk⟩
    rw [keptDeclarations_append, List.forall_mem_append] at hk
    rw [List.forall_mem_append] at hi
    exact ⟨⟨hi.1, hk.1⟩, hi.2 d List.mem_cons_self, hkept.mp hk.2⟩
  · rintro ⟨h, hi, hk⟩
    refine ⟨List.forall_mem_append.mpr ⟨h.inputs, by simpa using hi⟩, ?_⟩
    rw [keptDeclarations_append, List.forall_mem_append]
    exact ⟨h.kept, hkept.mpr hk⟩

theorem Acceptable.of_append {after : List Declaration} (h : Acceptable (before ++ after)) :
    Acceptable before := by
  refine ⟨(List.forall_mem_append.mp h.inputs).1, ?_⟩
  have hk := h.kept
  rw [keptDeclarations_append] at hk
  exact (List.forall_mem_append.mp hk).1

theorem Declaration.Breaks.not_acceptable (h : d.Breaks before e) :
    ¬ Acceptable (before ++ [d]) := by
  rw [acceptable_concat]
  rintro ⟨_, hi, hk⟩
  cases h with
  | input h => exact h.not_valid hi
  | indexed new inputs event surplus =>
    have := (hk new).indexed event
    omega
  | output new inputs function h => exact h.not_valid ((hk new).outputs function)

theorem FirstBreak.not_acceptable (h : FirstBreak ds e) : ¬ Acceptable ds := by
  obtain ⟨before, d, after, rfl, _, hd⟩ := h
  rw [List.append_cons]
  exact fun ha => hd.not_acceptable ha.of_append

/-- No two failures come first: a declaration that breaks something spoils all lists that it is
among the beginnings of. -/
theorem FirstBreak.unique (h : FirstBreak ds e) (h' : FirstBreak ds e') : e = e' := by
  obtain ⟨before, d, after, rfl, hb, hd⟩ := h
  obtain ⟨before', d', after', heq, hb', hd'⟩ := h'
  rcases List.append_eq_append_iff.mp heq with ⟨between, rfl, hrest⟩ | ⟨between, rfl, hrest⟩
  · cases between with
    | nil =>
      cases hrest
      rw [List.append_nil] at hd'
      exact hd.unique hd'
    | cons c between =>
      cases hrest
      rw [List.append_cons] at hb'
      exact absurd hb'.of_append hd.not_acceptable
  · cases between with
    | nil =>
      cases hrest
      rw [List.append_nil] at hd
      exact hd.unique hd'
    | cons c between =>
      cases hrest
      rw [List.append_cons] at hb
      exact absurd hb.of_append hd'.not_acceptable

end Breaking

section Resolving

variable {mode : Representation} {seen : List (Kind × String)} {g : Gathered}
variable {before ds : List Declaration} {d : Declaration} {e : Failure}

/-- A declaration has a signature, or an input that cannot be read. -/
theorem Declaration.signed_cases (d : Declaration) :
    (∃ sig, d.Signed sig ∧ ∀ p ∈ d.inputs, p.Valid) ∨
      ∃ e, signature d.nameOrKind d.inputs d.describe = .error e ∧
        FirstFaulty d.describe d.inputs e := by
  rcases canonicals_cases d.describe d.inputs with ⟨types, hs, hv⟩ | ⟨e, he, hf⟩
  · exact .inl ⟨_, by rw [Signed, signature, hs]; rfl, hv⟩
  · exact .inr ⟨e, by rw [signature, he]; rfl, hf⟩

/-- A list of results that cannot all be read is that of a function. -/
theorem Declaration.results_cases (d : Declaration) :
    (∀ p ∈ d.results, p.Valid) ∨
      d.kind = .function ∧ ∃ e, FirstFaulty d.describe d.results e := by
  rcases canonicals_cases d.describe d.results with ⟨_, _, hv⟩ | ⟨e, _, hf⟩
  · exact .inl hv
  · refine .inr ⟨?_, e, hf⟩
    by_contra hk
    simp only [results, if_neg hk] at hf
    exact hf.not_valid (by simp)

theorem Declaration.results_of_function (hk : d.kind = .function) : d.results = d.outputs :=
  if_pos hk

/-- A declaration not seen before resolves when it is admissible, and otherwise is the cause of a
failure. -/
theorem Declaration.resolve_cases (mode : Representation) (d : Declaration) (sig : String)
    (g : Gathered) (hi : ∀ p ∈ d.inputs, p.Valid) (hnew : ¬ d.Repeats before) :
    (∃ r g', d.resolve mode g sig = .ok (r, g') ∧ d.Admissible) ∨
      ∃ e, d.resolve mode g sig = .error e ∧ d.Breaks before e := by
  by_cases hover : d.kind = .event ∧ d.indexedLimit < d.inputs.countP (·.indexed)
  · refine .inr ⟨_, ?_, .indexed hnew hi hover.1 hover.2⟩
    simp only [resolve, checkIndexed, if_pos hover]
    rfl
  · obtain ⟨inputs, g₁, hin⟩ : ∃ inputs g₁,
        resolveParameters mode d.describe g d.inputs = .ok (inputs, g₁) := resolveParameters_ok g hi
    rcases d.results_cases with hv | ⟨hk, e, hf⟩
    · obtain ⟨outputs, g₂, hout⟩ : ∃ outputs g₂,
          resolveParameters mode d.describe g₁ d.results = .ok (outputs, g₂) :=
        resolveParameters_ok g₁ hv
      refine .inl ⟨⟨d, d.describe, sig, inputs, outputs⟩, g₂, ?_, ?_, ?_⟩
      · simp only [resolve, checkIndexed, if_neg hover, hin, hout]
      · intro hk
        exact Nat.le_of_not_lt fun hlt => hover ⟨hk, hlt⟩
      · intro hk
        rwa [← results_of_function hk]
    · have hout : resolveParameters mode d.describe g₁ d.results = .error e :=
        resolveParameters_error g₁ hf
      refine .inr ⟨e, by simp only [resolve, checkIndexed, if_neg hover, hin, hout], ?_⟩
      rw [results_of_function hk] at hf
      exact .output hnew hi hk hf

/-- Declarations resolve when all that there are now are acceptable; else the first to break
something is the cause of the failure. Neither the mode nor what was gathered decides which. -/
theorem resolveDeclarations_cases (mode : Representation) (ds : List Declaration) (g : Gathered)
    (hseen : SeenIn seen before) (hb : Acceptable before) :
    ((∃ x, (resolveDeclarations mode seen g ds).2 = .ok x) ∧ Acceptable (before ++ ds)) ∨
      ∃ e, (resolveDeclarations mode seen g ds).2 = .error e ∧ FirstBreak (before ++ ds) e := by
  induction ds generalizing seen g before with
  | nil => exact .inl ⟨⟨_, rfl⟩, by rwa [List.append_nil]⟩
  | cons d ds ih =>
    rw [List.append_cons]
    rcases d.signed_cases with ⟨sig, hsig, hi⟩ | ⟨e, he, hf⟩
    · have hs : signature d.nameOrKind d.inputs d.describe = .ok sig := hsig
      by_cases hm : d.identity sig ∈ seen
      · have hb' : Acceptable (before ++ [d]) :=
          acceptable_concat.mpr ⟨hb, hi, fun hnew => absurd ((hseen d sig hsig).mp hm) hnew⟩
        simp only [resolveDeclarations, hs, if_pos hm]
        exact ih g (hseen.repeated hsig hm) hb'
      · have hnew : ¬ d.Repeats before := fun hr => hm ((hseen d sig hsig).mpr hr)
        simp only [resolveDeclarations, hs, if_neg hm]
        rcases d.resolve_cases mode sig g hi hnew with ⟨r, g', hr, ha⟩ | ⟨e, he, hbreaks⟩
        · simp only [hr]
          rcases ih g' (hseen.new hsig) (acceptable_concat.mpr ⟨hb, hi, fun _ => ha⟩) with
            ⟨⟨x, hx⟩, hok⟩ | ⟨e, he, hfirst⟩
          · exact .inl ⟨⟨_, by rw [hx]; rfl⟩, hok⟩
          · exact .inr ⟨e, by rw [he]; rfl, hfirst⟩
        · simp only [he]
          exact .inr ⟨e, rfl, before, d, ds, by simp, hb, hbreaks⟩
    · simp only [resolveDeclarations, he]
      exact .inr ⟨e, rfl, before, d, ds, by simp, hb, .input hf⟩

/-- Resolving succeeds for just the declarations that are acceptable. -/
theorem resolveDeclarations_ok_iff :
    (∃ x, (resolveDeclarations mode [] g ds).2 = .ok x) ↔ Acceptable ds := by
  have hcases := resolveDeclarations_cases mode ds g SeenIn.nil acceptable_nil
  rw [List.nil_append] at hcases
  constructor
  · rintro ⟨x, hx⟩
    rcases hcases with ⟨_, ha⟩ | ⟨e, he, _⟩
    · exact ha
    · cases hx.symm.trans he
  · intro ha
    rcases hcases with ⟨hx, _⟩ | ⟨e, _, hf⟩
    · exact hx
    · exact absurd ha hf.not_acceptable

/-- What resolving fails with is what the first declaration to break something is the cause of. -/
theorem resolveDeclarations_error_iff :
    (resolveDeclarations mode [] g ds).2 = .error e ↔ FirstBreak ds e := by
  have hcases := resolveDeclarations_cases mode ds g SeenIn.nil acceptable_nil
  rw [List.nil_append] at hcases
  constructor
  · intro he
    rcases hcases with ⟨⟨x, hx⟩, _⟩ | ⟨e', he', hf⟩
    · cases hx.symm.trans he
    · cases he'.symm.trans he
      exact hf
  · intro hf
    rcases hcases with ⟨_, ha⟩ | ⟨e', he', hf'⟩
    · exact absurd ha hf.not_acceptable
    · rw [he', hf'.unique hf]

theorem Acceptable.resolves (mode : Representation) (ha : Acceptable ds) :
    ∃ rs g, (resolveDeclarations mode [] .empty ds).2 = .ok (rs, g) := by
  obtain ⟨⟨rs, g⟩, h⟩ : ∃ x, (resolveDeclarations mode [] .empty ds).2 = .ok x :=
    resolveDeclarations_ok_iff.mpr ha
  exact ⟨rs, g, h⟩

end Resolving

section Building

variable {scope : Scope} {ds : List ResolvedDeclaration}

/-- Making up a method name can only fail over the suffix. -/
theorem wantedMethod_ok {d : ResolvedDeclaration} {base : String} {isFirst : Bool}
    (h : ∃ suffix, overloadSuffix d = .ok suffix) :
    ∃ wanted, wantedMethod base isFirst d = .ok wanted := by
  obtain ⟨suffix, hs⟩ := h
  cases isFirst with
  | true => exact ⟨base, rfl⟩
  | false => exact ⟨_, by simp only [wantedMethod, Bool.false_eq_true, ↓reduceIte, hs]; rfl⟩

theorem claimMethods_ok {base : String} {isFirst : Bool}
    (h : ∀ d ∈ ds, ∃ suffix, overloadSuffix d = .ok suffix) :
    ∃ x, claimMethods base isFirst scope ds = .ok x := by
  induction ds generalizing isFirst scope with
  | nil => exact ⟨_, rfl⟩
  | cons d ds ih =>
    obtain ⟨hd, hds⟩ := List.forall_mem_cons.mp h
    obtain ⟨wanted, hw⟩ : ∃ wanted, wantedMethod base isFirst d = .ok wanted := wantedMethod_ok hd
    obtain ⟨x, hx⟩ : ∃ x, claimMethods base false (scope.claimNumbered wanted "_").2 ds = .ok x :=
      ih hds
    exact ⟨_, by simp only [claimMethods, hw, hx]; rfl⟩

theorem claimGroups_ok {groups : List (String × List ResolvedDeclaration)}
    (h : ∀ group ∈ groups, ∀ d ∈ group.2, ∃ suffix, overloadSuffix d = .ok suffix) :
    ∃ x, claimGroups scope groups = .ok x := by
  induction groups generalizing scope with
  | nil => exact ⟨_, rfl⟩
  | cons group groups ih =>
    obtain ⟨name, ds⟩ := group
    obtain ⟨hd, hds⟩ := List.forall_mem_cons.mp h
    obtain ⟨⟨methods, scope'⟩, hm⟩ : ∃ x,
      claimMethods (Naming.valueIdent name "function") true scope ds = .ok x := claimMethods_ok hd
    obtain ⟨x, hx⟩ : ∃ x, claimGroups scope' groups = .ok x := ih hds
    exact ⟨_, by simp only [claimGroups, hm, hx]; rfl⟩

/-- Bindings come about when the types of overloads can be read. -/
theorem buildBindings_ok {options : Options} {contractName : String} {modulePath : ModulePath}
    {shapes : ShapeTable} {bytecode : Option String}
    (h : ∀ d ∈ ds, ∃ suffix, overloadSuffix d = .ok suffix) :
    ∃ b, (buildBindings options contractName modulePath shapes ds bytecode).result = .ok b := by
  obtain ⟨x, hx⟩ : ∃ x, claimGroups (.reserving reservedMethodNames) (overloads ds) = .ok x := by
    refine claimGroups_ok fun group hgroup d hd => h d ?_
    exact (mem_overloads (List.mem_flatMap.mpr ⟨group, hgroup, hd⟩)).1
  simp only [buildBindings, hx]
  exact ⟨_, rfl⟩

/-- Inputs that can be read always make a suffix. -/
theorem overloadSuffix_ok {d : ResolvedDeclaration} (h : ∀ p ∈ d.declaration.inputs, p.Valid) :
    ∃ suffix, overloadSuffix d = .ok suffix := by
  obtain ⟨parts, hparts⟩ : ∃ parts, methodParts d.origin d.declaration.inputs = .ok parts :=
    methodParts_ok h
  simp only [overloadSuffix]
  split
  · exact ⟨_, rfl⟩
  · exact ⟨_, by rw [hparts]; rfl⟩

end Building

section Compiling

variable {mode : Representation} {g g' : Gathered} {ds : List Declaration}
variable {rs : List ResolvedDeclaration}

/-- What was resolved can be read again. -/
theorem overloads_readable (h : (resolveDeclarations mode [] g ds).2 = .ok (rs, g')) :
    ∀ r ∈ rs, ∃ suffix, overloadSuffix r = .ok suffix := by
  have ha : Acceptable ds := resolveDeclarations_ok_iff.mp ⟨_, h⟩
  obtain ⟨kept, rfl, hk⟩ := resolveDeclarations_kept h
  intro r hr
  obtain ⟨x, hx, rfl⟩ := List.mem_map.mp hr
  obtain ⟨hplace, _⟩ := hk.here x hx
  exact overloadSuffix_ok (ha.inputs _ (List.mem_of_getElem? hplace))

theorem Gathered.checkPrecision_of_lossless (h : g.losses = []) : g.checkPrecision = .ok () := by
  rw [checkPrecision, h]
  rfl

section Outcome

variable {options : Options} {contractName : String} {modulePath : ModulePath}
variable {bytecode : Option String} {e : Failure}

/-- A failure to resolve is the failure of the compilation. -/
theorem compileDeclarations_unresolved
    (h : (resolveDeclarations options.representation [] .empty ds).2 = .error e) :
    (compileDeclarations options contractName modulePath ds bytecode).result = .error e := by
  simp only [compileDeclarations]
  split
  · rename_i he
    rw [he] at h
    cases h
    rfl
  · rename_i he
    rw [he] at h
    cases h

/-- Of what resolved, only too wide integers keep bindings from coming about. -/
theorem compileDeclarations_resolved
    (h : (resolveDeclarations options.representation [] .empty ds).2 = .ok (rs, g)) :
    (compileDeclarations options contractName modulePath ds bytecode).result =
      match g.checkPrecision with
      | .error e => .error e
      | .ok () => (buildBindings options contractName modulePath g.shapes rs bytecode).result := by
  simp only [compileDeclarations]
  split
  · rename_i he
    rw [he] at h
    cases h
  · rename_i he
    rw [he] at h
    cases h
    cases g.checkPrecision <;> rfl

/-- Without losses, what is built is what comes out, with the repeats reported first. -/
theorem compileDeclarations_lossless {diagnostics : List Diagnostic}
    (h : resolveDeclarations options.representation [] .empty ds = (diagnostics, .ok (rs, g)))
    (hl : g.losses = []) :
    let outcome := buildBindings options contractName modulePath g.shapes rs bytecode
    compileDeclarations options contractName modulePath ds bytecode =
      ⟨diagnostics ++ outcome.diagnostics, outcome.result⟩ := by
  simp only [compileDeclarations, h, Gathered.checkPrecision_of_lossless hl]

/-- A compilation that succeeds reports the repeats first and then what building reports. -/
theorem compileDeclarations_run {b : ContractBindings}
    (h : (compileDeclarations options contractName modulePath ds bytecode).result = .ok b) :
    ∃ rs g, b.Compiled options.representation ds bytecode rs g ∧
      (buildBindings options contractName modulePath g.shapes rs bytecode).result = .ok b ∧
      compileDeclarations options contractName modulePath ds bytecode =
        ⟨(resolveDeclarations options.representation [] .empty ds).1 ++
          (buildBindings options contractName modulePath g.shapes rs bytecode).diagnostics,
          .ok b⟩ := by
  obtain ⟨rs, g, hc⟩ := compileDeclarations_ok h
  have hrun : compileDeclarations options contractName modulePath ds bytecode = _ :=
    compileDeclarations_lossless (Prod.ext rfl hc.resolved) hc.lossless
  rw [hrun] at h
  refine ⟨rs, g, hc, h, ?_⟩
  rw [hrun]
  exact congrArg (Outcome.mk _) h

/-- No integer is too wide in precise mode, so nothing but the declarations decides. -/
theorem compileDeclarations_precise_cases (hp : options.representation = .precise) :
    ((∃ b, (compileDeclarations options contractName modulePath ds bytecode).result = .ok b) ∧
        Acceptable ds) ∨
      ∃ e, (compileDeclarations options contractName modulePath ds bytecode).result = .error e ∧
        FirstBreak ds e := by
  rcases hr : (resolveDeclarations options.representation [] .empty ds).2 with e | ⟨rs, g⟩
  · exact .inr ⟨e, compileDeclarations_unresolved hr, resolveDeclarations_error_iff.mp hr⟩
  · refine .inl ⟨?_, resolveDeclarations_ok_iff.mp ⟨_, hr⟩⟩
    have hlossless : g.losses = [] := by
      rw [hp] at hr
      exact lossless_precise Gathered.lost_empty hr
    rw [compileDeclarations_resolved hr, Gathered.checkPrecision_of_lossless hlossless]
    exact buildBindings_ok (overloads_readable hr)

theorem compileDeclarations_precise_ok_iff (hp : options.representation = .precise) :
    (∃ b, (compileDeclarations options contractName modulePath ds bytecode).result = .ok b) ↔
      Acceptable ds := by
  constructor
  · rintro ⟨b, hb⟩
    rcases compileDeclarations_precise_cases hp with ⟨_, ha⟩ | ⟨e, he, _⟩
    · exact ha
    · cases hb.symm.trans he
  · intro ha
    rcases compileDeclarations_precise_cases hp with ⟨hb, _⟩ | ⟨e, _, hf⟩
    · exact hb
    · exact absurd ha hf.not_acceptable

theorem compileDeclarations_precise_error_iff (hp : options.representation = .precise) :
    (compileDeclarations options contractName modulePath ds bytecode).result = .error e ↔
      FirstBreak ds e := by
  constructor
  · intro he
    rcases compileDeclarations_precise_cases hp with ⟨⟨b, hb⟩, _⟩ | ⟨e', he', hf⟩
    · cases hb.symm.trans he
    · cases he'.symm.trans he
      exact hf
  · intro hf
    rcases compileDeclarations_precise_cases hp with ⟨_, ha⟩ | ⟨e', he', hf'⟩
    · exact absurd ha hf.not_acceptable
    · rw [he', hf'.unique hf]

end Outcome

end Compiling

/-- In precise mode, bindings come about just when the declarations are acceptable. Otherwise the
first that breaks something is the cause of the failure, and is blamed. In either mode nothing fails
once everything has resolved and no integer is too wide: types that were read can be read again, and
no tuple is met outside its parameter. -/
theorem compiles_iff_acceptable (options : Options) (contractName : String)
    (modulePath : ModulePath) (ds : List Declaration) (bytecode : Option String) :
    let precise := (compileDeclarations { options with representation := .precise } contractName
      modulePath ds bytecode).result
    ((∃ b, precise = .ok b) ↔ Acceptable ds) ∧
    (∀ e, precise = .error e ↔ FirstBreak ds e) ∧
    (∀ (before : List Declaration) (d : Declaration) (e : Failure),
      d.Breaks before e → e.Blames d.describe) ∧
    (∀ rs g, (resolveDeclarations options.representation [] .empty ds).2 = .ok (rs, g) →
      (∀ r ∈ rs, ∃ suffix, overloadSuffix r = .ok suffix) ∧
      (g.checkPrecision = .ok () →
        ∃ b, (buildBindings options contractName modulePath g.shapes rs bytecode).result = .ok b)) ∧
    ∀ typeText context, (resolveDeclarations options.representation [] .empty ds).2 ≠
      .error (.invalidType typeText context .strayTuple) := by
  intro precise
  refine ⟨compileDeclarations_precise_ok_iff rfl,
    fun e => compileDeclarations_precise_error_iff rfl,
    fun _ _ _ => Declaration.Breaks.blames, ?_, ?_⟩
  · intro rs g hr
    exact ⟨overloads_readable hr, fun _ => buildBindings_ok (overloads_readable hr)⟩
  · intro typeText context he
    obtain ⟨_, _, _, _, _, hbreaks⟩ := resolveDeclarations_error_iff.mp he
    exact hbreaks.ne_strayTuple rfl

section Vault

/-- For runs on a given input: an error that shows as expected. -/
theorem error_of_view {ε α β : Type} {x : Except ε α} {view : ε → β} {shown : β}
    (h : (match x with | .ok _ => none | .error e => some (view e)) = some shown) :
    ∃ e, x = .error e ∧ view e = shown := by
  cases x with
  | error e => exact ⟨e, rfl, Option.some.inj h⟩
  | ok a => cases h

/-- A second constructor would be left out, but its input is looked at. The event after it, with too
many indexed inputs, is not come to. -/
def brokenVault : List Declaration :=
  let topic : Parameter := { name := "", typeText := "uint256", indexed := true }
  vault ++ [{ kind := .constructor },
    { kind := .constructor, inputs := [{ topic with typeText := "uint7" }] },
    { kind := .event, name := some "Emptied", inputs := [topic, topic, topic, topic] }]

def brokenVaultBindings : Except Failure ContractBindings :=
  (compileDeclarations {} "Vault" ⟨["market"]⟩ brokenVault none).result

theorem brokenVaultBindings_error : ∃ e, brokenVaultBindings = .error e ∧
    e.message = "Invalid type `uint7` in constructor: " ++
      "integer width `7` must be a multiple of 8 between 8 and 256" :=
  error_of_view (by decide +kernel)

/-- A vault is acceptable; a broken one fails on its constructor. -/
theorem compiles_iff_acceptable_vault : Acceptable vault ∧ ∃ e, FirstBreak brokenVault e ∧
    e.message = "Invalid type `uint7` in constructor: " ++
      "integer width `7` must be a multiple of 8 between 8 and 256" := by
  obtain ⟨b, hb, _⟩ := vaultBindings_ok
  obtain ⟨e, he, hmessage⟩ := brokenVaultBindings_error
  have haccepted := (compiles_iff_acceptable {} "Vault" ⟨["market"]⟩ vault none).1.mp ⟨b, hb⟩
  have hbroken := ((compiles_iff_acceptable {} "Vault" ⟨["market"]⟩ brokenVault none).2.1 e).mp he
  exact ⟨haccepted, e, hbroken, hmessage⟩

end Vault

end AbiBindings
