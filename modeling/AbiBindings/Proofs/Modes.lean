import AbiBindings.Proofs.Coherence
import AbiBindings.Proofs.Widening

namespace AbiBindings

def BindingParam.widen (p : BindingParam) : BindingParam := { p with type := p.type.widen }

def StructField.widen (f : StructField) : StructField := { f with type := f.type.widen }

def StructDefinition.widen (d : StructDefinition) : StructDefinition :=
  { d with fields := d.fields.map (·.widen) }

def FunctionBinding.widen (f : FunctionBinding) : FunctionBinding :=
  { f with inputs := f.inputs.map (·.widen), outputs := f.outputs.map (·.widen) }

def EventField.widen (f : EventField) : EventField := { f with type := f.type.widen }

def EventBinding.widen (e : EventBinding) : EventBinding :=
  { e with fields := e.fields.map (·.widen) }

def ErrorBinding.widen (e : ErrorBinding) : ErrorBinding :=
  { e with fields := e.fields.map (·.widen) }

def DeployHelper.widen (helper : DeployHelper) : DeployHelper :=
  { helper with inputs := helper.inputs.map (·.widen) }

/-- The same bindings in precise mode. Nothing is changed but the mode and the counterparts of
integers. -/
def ContractBindings.widen (b : ContractBindings) : ContractBindings :=
  { b with
    representation := .precise
    structs := b.structs.map (·.widen)
    functions := b.functions.map (·.widen)
    events := b.events.map (·.widen)
    errors := b.errors.map (·.widen)
    deploy := b.deploy.map (·.widen) }

namespace ContractBindings

variable (b : ContractBindings)

theorem typeNames_widen : b.widen.typeNames = b.typeNames := by
  simp only [typeNames, widen, List.map_map]
  rfl

theorem methodNames_widen : b.widen.methodNames = b.methodNames := by
  simp only [methodNames, widen, List.map_map, List.flatMap_map]
  rfl

/-- Structs with the wider counterparts are the same on the wire. -/
theorem structKeys_widen : structKeys b.widen.structs = structKeys b.structs := by
  simp only [structKeys, widen, StructDefinition.key, StructDefinition.widen, List.map_map,
    Function.comp_def]
  rfl

end ContractBindings

section Structs

def Candidate.widen (c : Candidate) : Candidate := { c with shape := c.shape.widen }

theorem candidates_widen (id : StructId) (scope : Scope) (table : ShapeTable) :
    candidates id scope (table.map Shape.widen) =
      ((candidates id scope table).1.map Candidate.widen, (candidates id scope table).2) := by
  induction table generalizing id scope with
  | nil => rfl
  | cons shape table ih =>
    have hwanted : shape.widen.wanted id = shape.wanted id := rfl
    simp only [List.map_cons, candidates, hwanted, ih]
    rfl

/-- Names of structs do not depend on the counterparts of integers. -/
theorem settleNames_widen (contractType : String) (granted : List String) (scope : Scope)
    (cs : List Candidate) :
    settleNames contractType granted scope (cs.map Candidate.widen) =
      settleNames contractType granted scope cs := by
  induction cs generalizing granted scope with
  | nil => rfl
  | cons c cs ih =>
    have hsame : c.widen.granted = c.granted ∧ c.widen.wanted = c.wanted ∧
        c.widen.shape.origin = c.shape.origin := ⟨rfl, rfl, rfl⟩
    simp only [List.map_cons, settleNames, hsame, ih]

theorem Shape.define_widen (shape : Shape) (id : StructId) (name : String) :
    shape.widen.define id name = ((shape.define id name).1.widen, (shape.define id name).2) := by
  have hnames : shape.widen.fields.map (·.1) = shape.fields.map (·.1) := by
    simp [widen, widenMember, Function.comp_def]
  simp only [define, hnames]
  simp only [widen, StructDefinition.widen, List.zip_map_right, List.map_map]
  rfl

/-- Structs of widened shapes are the widened structs, and the same is reported. -/
theorem defineAll_widen (id : StructId) (pairs : List (Shape × String)) :
    defineAll id (pairs.map fun pair => (pair.1.widen, pair.2)) =
      ((defineAll id pairs).1.map (·.widen), (defineAll id pairs).2) := by
  induction pairs generalizing id with
  | nil => rfl
  | cons pair pairs ih => simp only [List.map_cons, defineAll, Shape.define_widen, ih]

/-- Structs are named alike. -/
theorem ShapeTable.name_widen (table : ShapeTable) (scope : Scope) (contractType : String) :
    ShapeTable.name (table.map Shape.widen) scope contractType =
      ((table.name scope contractType).1.map (·.widen), (table.name scope contractType).2) := by
  have hgranted : ∀ cs : List Candidate,
      ((cs.map Candidate.widen).filter (·.granted)).map (·.wanted) =
        (cs.filter (·.granted)).map (·.wanted) := by
    intro cs
    rw [List.filter_map, List.map_map]
    rfl
  have hpairs : ∀ names : List String, (table.map Shape.widen).zip names =
      (table.zip names).map fun pair => (pair.1.widen, pair.2) := by
    intro names
    rw [List.zip_map_left]
    rfl
  simp only [name, candidates_widen, hgranted, settleNames_widen, hpairs, defineAll_widen]

end Structs

section Members

variable {scope : Scope}

theorem pairMembers_widen (claims : List Naming.Claim) (types : List Resolved) :
    pairMembers claims (types.map Resolved.widen) = (pairMembers claims types).map (·.widen) := by
  simp only [pairMembers, List.zip_map_right, List.map_map]
  rfl

/-- Arguments of widened types are the widened arguments, under the same names. -/
theorem nameArguments_widen (origin : String) (params : List Parameter) (types : List Resolved) :
    nameArguments origin params (types.map Resolved.widen) =
      ((nameArguments origin params types).1.map (·.widen),
        (nameArguments origin params types).2) := by
  simp only [nameArguments, pairMembers_widen]

theorem nameResults_widen (params : List Parameter) (types : List Resolved) :
    nameResults params (types.map Resolved.widen) = (nameResults params types).map (·.widen) := by
  simp only [nameResults, pairMembers_widen]

/-- Only the wire decides what is left of an indexed input. -/
theorem placeFields_widen (topic data : Nat) (named : List (String × Parameter × Resolved)) :
    placeFields topic data (named.map fun x => (x.1, x.2.1, x.2.2.widen)) =
      (placeFields topic data named).map (·.widen) := by
  induction named generalizing topic data with
  | nil => rfl
  | cons entry named ih =>
    obtain ⟨name, p, type⟩ := entry
    have hlogged : (if type.widen.wire.isHashedInTopic then Resolved.topicHash else type.widen) =
        (if type.wire.isHashedInTopic then Resolved.topicHash else type).widen := by
      rw [apply_ite Resolved.widen]
      rfl
    simp only [List.map_cons, placeFields, hlogged, ih]
    split <;> rfl

theorem eventFields_widen (d : ResolvedDeclaration) :
    eventFields d.widen = ((eventFields d).1.map (·.widen), (eventFields d).2) := by
  have hnamed : ∀ names : List String,
      names.zip (d.declaration.inputs.zip (d.inputs.map Resolved.widen)) =
        (names.zip (d.declaration.inputs.zip d.inputs)).map fun x => (x.1, x.2.1, x.2.2.widen) := by
    intro names
    rw [List.zip_map_right, List.zip_map_right]
    rfl
  simp only [eventFields, ResolvedDeclaration.widen, hnamed, placeFields_widen]

theorem bindEvents_widen (types methods : Scope) (ds : List ResolvedDeclaration) :
    bindEvents types methods (ds.map (·.widen)) =
      ((bindEvents types methods ds).1.map (·.widen), (bindEvents types methods ds).2) := by
  induction ds generalizing types methods with
  | nil => rfl
  | cons d ds ih =>
    simp only [List.map_cons, bindEvents, eventFields_widen, ih]
    rfl

theorem bindErrors_widen (types : Scope) (ds : List ResolvedDeclaration) :
    bindErrors types (ds.map (·.widen)) =
      ((bindErrors types ds).1.map (·.widen), (bindErrors types ds).2) := by
  induction ds generalizing types with
  | nil => rfl
  | cons d ds ih =>
    have hfields : nameArguments d.widen.origin d.widen.declaration.inputs d.widen.inputs = _ :=
      nameArguments_widen d.origin d.declaration.inputs d.inputs
    simp only [List.map_cons, bindErrors, hfields, ih]
    rfl

theorem bindDeploy_widen (ds : List ResolvedDeclaration) (bytecode : String) :
    bindDeploy (ds.map (·.widen)) bytecode =
      ((bindDeploy ds bytecode).1.widen, (bindDeploy ds bytecode).2) := by
  have hfind : ((ds.map (·.widen)).find? fun d => d.declaration.kind = .constructor) =
      (ds.find? fun d => d.declaration.kind = .constructor).map (·.widen) := List.find?_map ..
  simp only [bindDeploy, hfind]
  cases ds.find? fun d => d.declaration.kind = .constructor with
  | none => rfl
  | some d =>
    have hinputs := nameArguments_widen d.origin d.declaration.inputs d.inputs
    simp only [Option.map_some, ResolvedDeclaration.widen, hinputs]
    rfl

theorem deploys_widen (ds : List ResolvedDeclaration) (bytecode : Option String) :
    bytecode.map (bindDeploy (ds.map (·.widen))) =
      (bytecode.map (bindDeploy ds)).map fun x => (x.1.widen, x.2) := by
  rw [Option.map_map]
  exact congrArg (Option.map · bytecode) (funext fun code => bindDeploy_widen ds code)

end Members

section Functions

def widenClaimed (x : ResolvedDeclaration × String) : ResolvedDeclaration × String :=
  (x.1.widen, x.2)

theorem claimMethods_widen (base : String) (isFirst : Bool) (scope : Scope)
    (ds : List ResolvedDeclaration) :
    claimMethods base isFirst scope (ds.map (·.widen)) =
      (claimMethods base isFirst scope ds).map fun x => (x.1.map widenClaimed, x.2) := by
  induction ds generalizing isFirst scope with
  | nil => rfl
  | cons d ds ih =>
    have hwanted : wantedMethod base isFirst d.widen = wantedMethod base isFirst d := rfl
    simp only [List.map_cons, claimMethods, hwanted]
    cases wantedMethod base isFirst d with
    | error e => rfl
    | ok wanted =>
      simp only [ih]
      cases claimMethods base false (scope.claimNumbered wanted "_").2 ds <;> rfl

/-- Methods do not depend on the counterparts of integers. -/
theorem claimGroups_widen (scope : Scope) (groups : List (String × List ResolvedDeclaration)) :
    claimGroups scope (groups.map fun group => (group.1, group.2.map (·.widen))) =
      (claimGroups scope groups).map fun x => (x.1.map widenClaimed, x.2) := by
  induction groups generalizing scope with
  | nil => rfl
  | cons group groups ih =>
    obtain ⟨name, ds⟩ := group
    simp only [List.map_cons, claimGroups, claimMethods_widen]
    cases claimMethods (Naming.valueIdent name "function") true scope ds with
    | error e => rfl
    | ok x =>
      simp only [Except.map, ih]
      cases claimGroups x.2 groups with
      | error e => rfl
      | ok y => simp only [List.map_append]

theorem overloads_widen (ds : List ResolvedDeclaration) :
    overloads (ds.map (·.widen)) =
      (overloads ds).map fun group => (group.1, group.2.map (·.widen)) := by
  simp only [overloads, List.filter_map, List.map_map, Function.comp_def]
  rfl

theorem bindFunction_widen (d : ResolvedDeclaration) (method : String) :
    bindFunction d.widen method =
      ((bindFunction d method).1.widen, (bindFunction d method).2) := by
  have hinputs := nameArguments_widen d.origin d.declaration.inputs d.inputs
  have houtputs := nameResults_widen d.declaration.outputs d.outputs
  simp only [bindFunction, ResolvedDeclaration.widen, hinputs, houtputs]
  rfl

theorem bindClaimed_widen (claimed : List (ResolvedDeclaration × String)) :
    ((claimed.map widenClaimed).map fun x => bindFunction x.1 x.2) =
      (claimed.map fun x => bindFunction x.1 x.2).map fun x => (x.1.widen, x.2) := by
  simp [widenClaimed, bindFunction_widen, Function.comp_def]

/-- Neither do the methods that are added. -/
theorem addAlternates_widen (methods : Scope) (fs : List FunctionBinding) :
    addAlternates methods (fs.map (·.widen)) =
      ((addAlternates methods fs).1.map (·.widen), (addAlternates methods fs).2) := by
  induction fs generalizing methods with
  | nil => rfl
  | cons f fs ih =>
    have hcall : f.widen.call = f.call := rfl
    have htransaction : f.widen.transaction = f.transaction := rfl
    simp only [List.map_cons, addAlternates, hcall, htransaction]
    split <;> simp only [ih] <;> rfl

/-- On request as well as without it. -/
theorem alternates_widen (both : Bool) (methods : Scope) (fs : List FunctionBinding) :
    (if both then addAlternates methods (fs.map (·.widen)) else (fs.map (·.widen), methods)) =
      ((if both then addAlternates methods fs else (fs, methods)).1.map (·.widen),
        (if both then addAlternates methods fs else (fs, methods)).2) := by
  cases both with
  | true => exact addAlternates_widen methods fs
  | false => rfl

theorem primaries_widen (fs : List FunctionBinding) :
    (fs.map (·.widen)).map (·.primary) = fs.map (·.primary) := by
  rw [List.map_map]
  rfl

theorem nameEncoders_widen (methods : Scope) (fs : List FunctionBinding) (primaries : List String) :
    nameEncoders methods ((fs.map (·.widen)).zip primaries) =
      ((nameEncoders methods (fs.zip primaries)).1.map (·.widen),
        (nameEncoders methods (fs.zip primaries)).2) := by
  induction fs generalizing methods primaries with
  | nil => rfl
  | cons f fs ih =>
    cases primaries with
    | nil => rfl
    | cons primary primaries =>
      simp only [List.map_cons, List.zip_cons_cons, nameEncoders, ih]
      rfl

end Functions

theorem ofKind_widen (kind : Kind) (ds : List ResolvedDeclaration) :
    ofKind kind (ds.map (·.widen)) = (ofKind kind ds).map (·.widen) := by
  rw [ofKind, List.filter_map]
  rfl

/-- Building looks at wires and declared names only, and hands counterparts on. -/
theorem buildBindings_widen (options : Options) (contractName : String) (modulePath : ModulePath)
    (shapes : ShapeTable) (ds : List ResolvedDeclaration) (bytecode : Option String) :
    let outcome := buildBindings options contractName modulePath shapes ds bytecode
    buildBindings { options with representation := .precise } contractName modulePath
        (shapes.map Shape.widen) (ds.map (·.widen)) bytecode =
      ⟨outcome.diagnostics, outcome.result.map (·.widen)⟩ := by
  intro outcome
  simp only [outcome, buildBindings, ShapeTable.name_widen, overloads_widen, claimGroups_widen]
  cases claimGroups (.reserving reservedMethodNames) (overloads ds) with
  | error e => rfl
  | ok x =>
    obtain ⟨claimed, methods⟩ := x
    have hhelper : ∀ deploy : Option (DeployHelper × List Diagnostic),
        (deploy.map fun x => (x.1.widen, x.2)).map (·.1) = (deploy.map (·.1)).map (·.widen) ∧
          (deploy.map fun x => (x.1.widen, x.2)).map (·.2) = deploy.map (·.2) := by
      intro deploy
      cases deploy <;> exact ⟨rfl, rfl⟩
    have hbound : ∀ bound : List (FunctionBinding × List Diagnostic),
        (bound.map fun x => (x.1.widen, x.2)).map (·.1) = (bound.map (·.1)).map (·.widen) ∧
          (bound.map fun x => (x.1.widen, x.2)).flatMap (·.2) = bound.flatMap (·.2) := by
      intro bound
      simp [Function.comp_def, List.flatMap_map]
    simp only [Except.map, bindClaimed_widen, hbound, primaries_widen, alternates_widen,
      ofKind_widen, bindEvents_widen, bindErrors_widen, nameEncoders_widen, deploys_widen, hhelper,
      List.isEmpty_map, ContractBindings.widen]

/-- What fails in precise mode fails alike in native mode. What compiles in native mode compiles in
precise mode, with the same diagnostics and to the same bindings but for the mode and the
counterparts of integers. -/
theorem modes_agree (options : Options) (contractName : String) (modulePath : ModulePath)
    (ds : List Declaration) (bytecode : Option String) :
    let native := compileDeclarations { options with representation := .native } contractName
      modulePath ds bytecode
    let precise := compileDeclarations { options with representation := .precise } contractName
      modulePath ds bytecode
    (∀ e, precise.result = .error e → native.result = .error e) ∧
    ∀ b, native.result = .ok b →
      precise.result = .ok b.widen ∧ precise.diagnostics = native.diagnostics ∧
      b.widen.typeNames = b.typeNames ∧ b.widen.methodNames = b.methodNames ∧
      structKeys b.widen.structs = structKeys b.structs := by
  intro native precise
  refine ⟨?_, ?_⟩
  · intro e he
    have hfirst : FirstBreak ds e := (compileDeclarations_precise_error_iff rfl).mp he
    exact compileDeclarations_unresolved (resolveDeclarations_error_iff.mpr hfirst)
  · intro b hb
    obtain ⟨rs, g, hc⟩ := compileDeclarations_ok hb
    obtain ⟨g', hresolved, hw⟩ :=
      resolveDeclarations_widened Gathered.Widened.empty hc.lossless hc.resolved
    have hnative : native = _ := compileDeclarations_lossless (Prod.ext rfl hc.resolved) hc.lossless
    have hprecise : precise = _ := compileDeclarations_lossless hresolved
      (lossless_precise Gathered.lost_empty (congrArg (·.2) hresolved))
    have hbuilt := buildBindings_widen { options with representation := .native } contractName
      modulePath g.shapes rs bytecode
    rw [hnative] at hb ⊢
    rw [hprecise, hw.shapes, hbuilt]
    exact ⟨congrArg (·.map ContractBindings.widen) hb, rfl, b.typeNames_widen,
      b.methodNames_widen, b.structKeys_widen⟩

/-- Steps of an auction are primitives in native mode and words in precise mode. A broken vault is
broken in both. -/
theorem modes_agree_auction :
    (∃ b, auctionBindings = .ok b ∧ auctionSteps ∈ b.valueTypes ∧
      auctionSteps.widen = { auctionSteps with target := .vec (.array .wideUint 2) } ∧
      (compileDeclarations {} "Auction" ⟨["market"]⟩ auction none).result = .ok b.widen) ∧
    ∃ e, brokenVaultBindings = .error e ∧
      (compileDeclarations { representation := .native } "Vault" ⟨["market"]⟩ brokenVault
        none).result = .error e := by
  obtain ⟨b, hb, hsteps, _⟩ := auctionBindings_event
  obtain ⟨e, he, _⟩ := brokenVaultBindings_error
  obtain ⟨_, hcompiles⟩ := modes_agree {} "Auction" ⟨["market"]⟩ auction none
  obtain ⟨hfails, _⟩ := modes_agree {} "Vault" ⟨["market"]⟩ brokenVault none
  exact ⟨⟨b, hb, hsteps, rfl, (hcompiles b hb).1⟩, e, he, hfails e he⟩

end AbiBindings
