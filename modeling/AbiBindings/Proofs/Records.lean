import AbiBindings.Bindings.Records
import AbiBindings.Proofs.Functions

namespace AbiBindings

theorem claimRecord_grants {abiName suffix name : String} {types types' : Scope}
    (h : claimRecord abiName suffix types = (name, types')) : types.Grants [name] types' :=
  Scope.claimNumbered_grants h

section Fields

variable {named : List (String × Parameter × Resolved)} {topic data : Nat}

def loggedType (p : Parameter) (type : Resolved) : Resolved :=
  if p.indexed ∧ type.wire.isHashedInTopic then .topicHash else type

theorem placeFields_names :
    (placeFields topic data named).map (·.name) = named.map (·.1) := by
  induction named generalizing topic data with
  | nil => rfl
  | cons entry named ih =>
    obtain ⟨name, p, type⟩ := entry
    cases hi : p.indexed <;> simp [placeFields, hi, ih]

theorem placeFields_types :
    (placeFields topic data named).map (·.type) = named.map fun x => loggedType x.2.1 x.2.2 := by
  induction named generalizing topic data with
  | nil => rfl
  | cons entry named ih =>
    obtain ⟨name, p, type⟩ := entry
    cases hi : p.indexed <;> simp [placeFields, loggedType, hi, ih]

/-- An event's fields are placed inputs, each under the name granted to it. -/
theorem eventFields_named {d : ResolvedDeclaration}
    (hlen : d.inputs.length = d.declaration.inputs.length) :
    ∃ named : List (String × Parameter × Resolved),
      named.map (·.1) = claimedNames "param" d.declaration.inputs ∧
      named.map (·.2) = d.declaration.inputs.zip d.inputs ∧
      (eventFields d).1 = placeFields d.declaration.firstTopic 0 named := by
  have hl : (claimedNames "param" d.declaration.inputs).length =
      (d.declaration.inputs.zip d.inputs).length := by
    simp [length_claimedNames, hlen]
  exact ⟨(claimedNames "param" d.declaration.inputs).zip (d.declaration.inputs.zip d.inputs),
    List.map_fst_zip (Nat.le_of_eq hl), List.map_snd_zip (Nat.le_of_eq hl.symm), rfl⟩

/-- An event's fields are its inputs, under distinct names, as far as a log keeps them. -/
theorem eventFields_spec {d : ResolvedDeclaration}
    (hlen : d.inputs.length = d.declaration.inputs.length) :
    (eventFields d).1.map (·.type) =
        (d.declaration.inputs.zip d.inputs).map (fun x => loggedType x.1 x.2) ∧
      ((eventFields d).1.map (·.name)).Nodup := by
  obtain ⟨named, hnames, hinputs, hfields⟩ := eventFields_named hlen
  rw [hfields, placeFields_names, placeFields_types, hnames]
  exact ⟨map_of_map hinputs fun x => loggedType x.1 x.2, (Naming.claimMembers_grants rfl).nodup⟩

end Fields

section Members

variable {types types' methods methods' : Scope} {ds : List ResolvedDeclaration}
variable {diagnostics : List Diagnostic}

def eventFace (d : ResolvedDeclaration) : EventBinding where
  abiName := d.declaration.nameOrKind
  signature := d.signature
  topic := eventTopic d.signature
  anonymous := d.declaration.anonymous
  recordName := ""
  filterMethod := ""
  fields := (eventFields d).1

def EventBinding.face (e : EventBinding) : EventBinding :=
  { e with recordName := "", filterMethod := "" }

/-- Events keep what they say, and take a record and a filter each that nothing else has. -/
theorem bindEvents_spec {events : List EventBinding}
    (h : bindEvents types methods ds = (events, diagnostics, types', methods')) :
    events.map (·.face) = ds.map eventFace ∧ types.Grants (events.map (·.recordName)) types' ∧
      methods.Grants (events.map (·.filterMethod)) methods' := by
  induction ds generalizing types methods events diagnostics with
  | nil =>
    cases h
    exact ⟨rfl, .none _, .none _⟩
  | cons d ds ih =>
    obtain ⟨⟨record, types₁⟩, hr⟩ :
      ∃ p, claimRecord d.declaration.nameOrKind "Event" types = p := ⟨_, rfl⟩
    obtain ⟨⟨filter, methods₁⟩, hf⟩ : ∃ p, methods.claimNumbered
      (Naming.valueIdent d.declaration.nameOrKind "log" ++ "_events") "_" = p := ⟨_, rfl⟩
    obtain ⟨⟨rest, more, types₂, methods₂⟩, hrest⟩ :
      ∃ p, bindEvents types₁ methods₁ ds = p := ⟨_, rfl⟩
    simp only [bindEvents, hr, hf, hrest, Prod.mk.injEq] at h
    obtain ⟨rfl, _, rfl, rfl⟩ := h
    obtain ⟨hface, ht, hm⟩ := ih hrest
    refine ⟨?_, (claimRecord_grants hr).append ht, (Scope.claimNumbered_grants hf).append hm⟩
    rw [List.map_cons, List.map_cons, hface]
    rfl

def errorFace (d : ResolvedDeclaration) : ErrorBinding where
  abiName := d.declaration.nameOrKind
  signature := d.signature
  selector := selector d.signature
  recordName := ""
  fields := (nameArguments d.origin d.declaration.inputs d.inputs).1

def ErrorBinding.face (e : ErrorBinding) : ErrorBinding := { e with recordName := "" }

/-- Errors keep what they say, and take a record each that nothing else has. -/
theorem bindErrors_spec {errors : List ErrorBinding}
    (h : bindErrors types ds = (errors, diagnostics, types')) :
    errors.map (·.face) = ds.map errorFace ∧ types.Grants (errors.map (·.recordName)) types' := by
  induction ds generalizing types errors diagnostics with
  | nil =>
    cases h
    exact ⟨rfl, .none _⟩
  | cons d ds ih =>
    obtain ⟨⟨record, types₁⟩, hr⟩ :
      ∃ p, claimRecord d.declaration.nameOrKind "Error" types = p := ⟨_, rfl⟩
    obtain ⟨⟨rest, more, types₂⟩, hrest⟩ : ∃ p, bindErrors types₁ ds = p := ⟨_, rfl⟩
    simp only [bindErrors, hr, hrest, Prod.mk.injEq] at h
    obtain ⟨rfl, _, rfl⟩ := h
    obtain ⟨hface, ht⟩ := ih hrest
    refine ⟨?_, (claimRecord_grants hr).append ht⟩
    rw [List.map_cons, List.map_cons, hface]
    rfl

/-- Deployment takes what the first constructor takes, and every argument has its own name. -/
theorem bindDeploy_spec {mode : Representation} {keys : List ShapeKey}
    (hds : ∀ d ∈ ds, d.Sound mode keys) (bytecode : String) :
    (((bindDeploy ds bytecode).1.inputs.map (·.name)) ++
        (bindDeploy ds bytecode).1.providerParam ::
        (bindDeploy ds bytecode).1.valueParam.toList).Nodup ∧
      match ds.find? fun d => d.declaration.kind = .constructor with
      | none => (bindDeploy ds bytecode).1.signature = none ∧
        (bindDeploy ds bytecode).1.inputs = []
      | some d => (bindDeploy ds bytecode).1.signature = some d.signature ∧
        (bindDeploy ds bytecode).1.inputs.map (·.type) = d.inputs := by
  cases hf : ds.find? fun d => d.declaration.kind = .constructor with
  | none => simp [bindDeploy, hf]
  | some d =>
    obtain ⟨⟨inputs, diags, scope⟩, hn⟩ :
      ∃ p, nameArguments d.origin d.declaration.inputs d.inputs = p := ⟨_, rfl⟩
    obtain ⟨⟨provider, scope₁⟩, hp⟩ : ∃ p, scope.claimNumbered "provider" "_" = p := ⟨_, rfl⟩
    obtain ⟨ht, hg⟩ := nameArguments_spec (hds d (List.mem_of_find?_eq_some hf)).inputs.length hn
    obtain ⟨_, hv⟩ := valueArgument_grants d.declaration.mutability scope₁
    simp only [bindDeploy, hf, hn, hp]
    exact ⟨(hg.append ((Scope.claimNumbered_grants hp).append hv)).nodup, trivial, ht⟩

end Members

end AbiBindings
