import AbiBindings.Compilation
import AbiBindings.Proofs.Records
import AbiBindings.Proofs.Structs

namespace AbiBindings

section Methods

variable {options : Options} {scope scope' : Scope} {fs fs' : List FunctionBinding}

/-- Alternates are added on request; without the request nothing is. -/
theorem alternates_spec (h : (if options.callAndSend then addAlternates scope fs else (fs, scope)) =
      (fs', scope')) :
    fs'.map (·.face) = fs.map (·.face) ∧
      ((∀ f ∈ fs, f.methodNames ≠ []) → fs'.map (·.ways) =
        fs.map fun f => if options.callAndSend then (true, true) else f.ways) ∧
      ∃ names, scope.Grants names scope' ∧
        (fs.flatMap (·.methodNames) ++ names).Perm (fs'.flatMap (·.methodNames)) := by
  cases hc : options.callAndSend with
  | true =>
    rw [hc, if_pos rfl] at h
    exact addAlternates_spec h
  | false =>
    rw [hc, if_neg (by simp)] at h
    cases h
    exact ⟨rfl, fun _ => rfl, [], .none _, by simp⟩

/-- Binding takes no methods but those that were granted. -/
theorem methodNames_bound (claimed : List (ResolvedDeclaration × String)) :
    (claimed.map fun x => (bindFunction x.1 x.2).1).flatMap (·.methodNames) =
      claimed.map (·.2) := by
  induction claimed with
  | nil => rfl
  | cons x claimed ih =>
    rw [List.map_cons, List.flatMap_cons, ih, bindFunction_methodNames]
    rfl

/-- A function has a method in the first place, and gets the other kind on request. -/
theorem ways_bound (both : Bool) (claimed : List (ResolvedDeclaration × String)) :
    ((claimed.map fun x => (bindFunction x.1 x.2).1).map fun f =>
      if both then (true, true) else f.ways) = (claimed.map (·.1)).map (·.ways both) := by
  rw [List.map_map, List.map_map]
  refine List.map_congr_left fun x _ => ?_
  simp only [Function.comp_apply, bindFunction_ways, ResolvedDeclaration.ways]
  cases both with
  | false => rfl
  | true => simp only [↓reduceIte, Bool.or_true]

/-- Functions get their encoders without losing anything else. -/
theorem encoders_spec {primaries : List String} (hl : primaries.length = fs.length)
    (h : nameEncoders scope (fs.zip primaries) = (fs', scope')) :
    fs'.map (·.face) = fs.map (·.face) ∧ fs'.map (·.ways) = fs.map (·.ways) ∧
      fs'.flatMap (·.methodNames) = fs.flatMap (·.methodNames) ∧
      scope.Grants (fs'.map (·.encoder)) scope' := by
  obtain ⟨hf, hm, hw, hg⟩ := nameEncoders_spec h
  have hz : (fs.zip primaries).map (·.1) = fs := List.map_fst_zip (Nat.le_of_eq hl.symm)
  refine ⟨hf.trans (map_of_map hz (·.face)), hw.trans (map_of_map hz (·.ways)), ?_, hg⟩
  rw [List.flatMap_def, List.flatMap_def, hm]
  exact congrArg List.flatten (map_of_map hz (·.methodNames))

end Methods

namespace ContractBindings

def typeNames (b : ContractBindings) : List String :=
  b.typeName :: (b.structs.map (·.name) ++
    (b.events.map (·.recordName) ++ b.errors.map (·.recordName)))

def methodNames (b : ContractBindings) : List String :=
  b.functions.flatMap (·.methodNames) ++
    (b.events.map (·.filterMethod) ++ b.functions.map (·.encoder))

end ContractBindings

/-- What bindings say of the shapes and declarations they were built from. -/
structure ContractBindings.BuiltFrom (b : ContractBindings) (shapes : ShapeTable)
    (ds : List ResolvedDeclaration) (bytecode : Option String) : Prop where
  bodies : b.structs.map (·.body) = shapes.map Shape.body
  ids : b.structs.map (·.id) = List.range b.structs.length
  structFields : ∀ d ∈ b.structs, (d.fields.map (·.name)).Nodup
  functions : ∃ claimed : List (ResolvedDeclaration × String),
    claimed.map (·.1) = (overloads ds).flatMap (·.2) ∧
      b.functions.map (·.face) = claimed.map fun x => (bindFunction x.1 x.2).1.face
  events : b.events.map (·.face) = (ofKind .event ds).map eventFace
  errors : b.errors.map (·.face) = (ofKind .error ds).map errorFace
  deploy : b.deploy = bytecode.map fun code => (bindDeploy ds code).1
  typeNames : ∃ scope, (Scope.reserving reservedTypeNames).Grants b.typeNames scope
  methodNames : ∃ scope, (Scope.reserving reservedMethodNames).Grants b.methodNames scope

/-- The stages of building, each with the scopes that it hands on to the next. -/
structure ContractBindings.Stages (b : ContractBindings) (options : Options)
    (contractName : String) (shapes : ShapeTable) (ds : List ResolvedDeclaration)
    (bytecode : Option String) where
  handleTypes : Scope
  structTypes : Scope
  eventTypes : Scope
  errorTypes : Scope
  ownMethods : Scope
  allMethods : Scope
  eventMethods : Scope
  encoderMethods : Scope
  claimed : List (ResolvedDeclaration × String)
  /-- Functions with the methods that their mutability asks for. -/
  bound : List FunctionBinding
  functions : List FunctionBinding
  handle : ∃ diags, nameContract contractName = (b.typeName, diags, handleTypes)
  structs : ∃ diags, shapes.name handleTypes b.typeName = (b.structs, diags, structTypes)
  claim : claimGroups (.reserving reservedMethodNames) (overloads ds) = .ok (claimed, ownMethods)
  bind : claimed.map (fun x => (bindFunction x.1 x.2).1) = bound
  alternates : (if options.callAndSend then addAlternates ownMethods bound
    else (bound, ownMethods)) = (functions, allMethods)
  events : ∃ diags, bindEvents structTypes allMethods (ofKind .event ds) =
    (b.events, diags, eventTypes, eventMethods)
  errors : ∃ diags, bindErrors eventTypes (ofKind .error ds) = (b.errors, diags, errorTypes)
  encoders : nameEncoders eventMethods (functions.zip (bound.map (·.primary))) =
    (b.functions, encoderMethods)
  deploy : b.deploy = bytecode.map fun code => (bindDeploy ds code).1

/-- Bindings that were built went through all stages. -/
theorem buildBindings_stages {options : Options} {contractName : String} {modulePath : ModulePath}
    {shapes : ShapeTable} {ds : List ResolvedDeclaration} {bytecode : Option String}
    {b : ContractBindings}
    (h : (buildBindings options contractName modulePath shapes ds bytecode).result = .ok b) :
    Nonempty (b.Stages options contractName shapes ds bytecode) ∧ b.modulePath = modulePath := by
  -- Each stage is named before the next one is looked at, since it hands its scope on.
  obtain ⟨⟨typeName, diags, types⟩, hcontract⟩ : ∃ p, nameContract contractName = p := ⟨_, rfl⟩
  obtain ⟨⟨structs, diags₁, types₁⟩, hstructs⟩ : ∃ p, shapes.name types typeName = p := ⟨_, rfl⟩
  simp only [buildBindings, hcontract, hstructs] at h
  split at h
  · cases h
  · rename_i claimed methods hclaimed
    obtain ⟨bound, hbound⟩ :
      ∃ fs, claimed.map (fun x => (bindFunction x.1 x.2).1) = fs := ⟨_, rfl⟩
    simp only [List.map_map, Function.comp_def, hbound] at h
    obtain ⟨⟨functions, methods₁⟩, halternates⟩ : ∃ p,
      (if options.callAndSend then addAlternates methods bound else (bound, methods)) = p :=
        ⟨_, rfl⟩
    obtain ⟨⟨events, diags₂, types₂, methods₂⟩, hevents⟩ : ∃ p,
      bindEvents types₁ methods₁ (ofKind .event ds) = p := ⟨_, rfl⟩
    obtain ⟨⟨errors, diags₃, types₃⟩, herrors⟩ : ∃ p,
      bindErrors types₂ (ofKind .error ds) = p := ⟨_, rfl⟩
    obtain ⟨⟨encoded, methods₃⟩, hencoders⟩ : ∃ p,
      nameEncoders methods₂ (functions.zip (bound.map (·.primary))) = p := ⟨_, rfl⟩
    simp only [halternates, hevents, herrors, hencoders, Option.map_map, Function.comp_def,
      Except.ok.injEq] at h
    subst h
    exact ⟨⟨types, types₁, types₂, types₃, methods, methods₁, methods₂, methods₃, claimed, bound,
      functions, ⟨diags, hcontract⟩, ⟨diags₁, hstructs⟩, hclaimed, hbound, halternates,
      ⟨diags₂, hevents⟩, ⟨diags₃, herrors⟩, hencoders, rfl⟩, rfl⟩

/-- Every stage of building leaves its mark. Functions have the methods that they should have. -/
theorem buildBindings_spec {options : Options} {contractName : String} {modulePath : ModulePath}
    {shapes : ShapeTable} {ds : List ResolvedDeclaration} {bytecode : Option String}
    {b : ContractBindings}
    (h : (buildBindings options contractName modulePath shapes ds bytecode).result = .ok b) :
    b.BuiltFrom shapes ds bytecode ∧ b.functions.map (·.ways) =
      ((overloads ds).flatMap (·.2)).map (·.ways options.callAndSend) := by
  obtain ⟨⟨stages⟩, _⟩ := buildBindings_stages h
  obtain ⟨hface, hways, names, hnew, hp⟩ := alternates_spec stages.alternates
  have hlen := congrArg List.length hface
  obtain ⟨hface', hways', hnames', hgencoders⟩ :=
    encoders_spec (by simpa using hlen.symm) stages.encoders
  obtain ⟨_, hcontract⟩ := stages.handle
  obtain ⟨_, hstructs⟩ := stages.structs
  obtain ⟨_, hevents⟩ := stages.events
  obtain ⟨_, herrors⟩ := stages.errors
  obtain ⟨hbodies, hids, hfields, hgstructs⟩ := ShapeTable.name_spec hstructs
  obtain ⟨hkept, hgmethods⟩ := claimGroups_spec stages.claim
  obtain ⟨hevface, hgrecords, hgfilters⟩ := bindEvents_spec hevents
  obtain ⟨herface, hgerrors⟩ := bindErrors_spec herrors
  have hmethod : ∀ f ∈ stages.bound, f.methodNames ≠ [] := by
    intro f hf
    rw [← stages.bind] at hf
    obtain ⟨x, _, rfl⟩ := List.mem_map.mp hf
    simp [bindFunction_methodNames]
  refine ⟨⟨hbodies, hids, hfields, ⟨stages.claimed, hkept, ?_⟩, hevface, herface, stages.deploy,
    ?_, ?_⟩, ?_⟩
  · rw [hface', hface, ← stages.bind, List.map_map]
    rfl
  · simp only [nameContract, Prod.mk.injEq] at hcontract
    exact ⟨stages.errorTypes,
      (Scope.claimNumbered_grants (Prod.ext hcontract.1 hcontract.2.2)).append
        (hgstructs.append (hgrecords.append hgerrors))⟩
  · rw [← stages.bind, methodNames_bound] at hp
    rw [ContractBindings.methodNames, hnames']
    exact ⟨stages.encoderMethods,
      ((hgmethods.append hnew).perm hp).append (hgfilters.append hgencoders)⟩
  · rw [← hkept, ← ways_bound, stages.bind]
    exact hways'.trans (hways hmethod)

/-- The check passes only when nothing was lost. -/
theorem Gathered.checkPrecision_ok {g : Gathered} (h : g.checkPrecision = .ok ()) :
    g.losses = [] := by
  simp only [checkPrecision] at h
  split at h
  · rename_i he
    exact List.isEmpty_iff.mp he
  · cases h

/-- A compilation that succeeded: the declarations kept, and what resolving them gathered. -/
structure ContractBindings.Compiled (b : ContractBindings) (mode : Representation)
    (ds : List Declaration) (bytecode : Option String) (rs : List ResolvedDeclaration)
    (g : Gathered) : Prop where
  resolved : (resolveDeclarations mode [] .empty ds).2 = .ok (rs, g)
  lossless : g.losses = []
  built : b.BuiltFrom g.shapes rs bytecode

/-- A compilation that succeeds is one of declarations kept and resolved without loss, and each
function has the ways of calling that its mutability asks for. -/
theorem compileDeclarations_ways {options : Options} {contractName : String}
    {modulePath : ModulePath} {ds : List Declaration} {bytecode : Option String}
    {b : ContractBindings}
    (h : (compileDeclarations options contractName modulePath ds bytecode).result = .ok b) :
    ∃ rs g, b.Compiled options.representation ds bytecode rs g ∧
      b.functions.map (·.ways) =
        ((overloads rs).flatMap (·.2)).map (·.ways options.callAndSend) := by
  simp only [compileDeclarations] at h
  split at h
  · cases h
  · rename_i diagnostics rs g hr
    split at h
    · cases h
    · rename_i hp
      obtain ⟨hbuilt, hways⟩ := buildBindings_spec h
      exact ⟨rs, g, ⟨by rw [hr], Gathered.checkPrecision_ok hp, hbuilt⟩, hways⟩

/-- A compilation that succeeds is one of declarations kept and resolved without loss. -/
theorem compileDeclarations_ok {options : Options} {contractName : String}
    {modulePath : ModulePath} {ds : List Declaration} {bytecode : Option String}
    {b : ContractBindings}
    (h : (compileDeclarations options contractName modulePath ds bytecode).result = .ok b) :
    ∃ rs g, b.Compiled options.representation ds bytecode rs g := by
  obtain ⟨rs, g, hc, _⟩ := compileDeclarations_ways h
  exact ⟨rs, g, hc⟩

/-- What is resolved depends on the mode and the declarations alone. All else comes in at building. -/
theorem compileDeclarations_cases (mode : Representation) (ds : List Declaration) :
    (∃ diagnostics e, ∀ (options : Options) contractName modulePath bytecode,
      options.representation = mode →
      compileDeclarations options contractName modulePath ds bytecode = ⟨diagnostics, .error e⟩) ∨
    ∃ diagnostics rs, ∃ g : Gathered, ∀ (options : Options) contractName modulePath bytecode,
      options.representation = mode →
      let outcome := buildBindings options contractName modulePath g.shapes rs bytecode
      compileDeclarations options contractName modulePath ds bytecode =
        ⟨diagnostics ++ outcome.diagnostics, outcome.result⟩ := by
  obtain ⟨⟨diagnostics, resolved⟩, hr⟩ : ∃ p, resolveDeclarations mode [] .empty ds = p := ⟨_, rfl⟩
  cases resolved with
  | error e =>
    refine .inl ⟨diagnostics, e, ?_⟩
    intro options contractName modulePath bytecode hmode
    simp only [compileDeclarations, hmode, hr]
  | ok x =>
    obtain ⟨rs, g⟩ := x
    cases hp : g.checkPrecision with
    | error e =>
      refine .inl ⟨diagnostics, e, ?_⟩
      intro options contractName modulePath bytecode hmode
      simp only [compileDeclarations, hmode, hr, hp]
    | ok =>
      refine .inr ⟨diagnostics, rs, g, ?_⟩
      intro options contractName modulePath bytecode hmode
      simp only [compileDeclarations, hmode, hr, hp]

/-- A function carries what its declaration says, under names that do not clash. -/
structure FunctionBinding.BoundTo (f : FunctionBinding) (r : ResolvedDeclaration) : Prop where
  abiName : f.abiName = r.declaration.nameOrKind
  signature : f.signature = r.signature
  selector : f.selector = AbiBindings.selector r.signature
  inputs : f.inputs.map (·.type) = r.inputs
  outputs : f.outputs.map (·.type) = r.outputs
  inputNames : (f.inputs.map (·.name) ++ f.valueParam.toList).Nodup
  outputNames : (f.outputs.map (·.name)).Nodup

structure ErrorBinding.BoundTo (e : ErrorBinding) (r : ResolvedDeclaration) : Prop where
  abiName : e.abiName = r.declaration.nameOrKind
  signature : e.signature = r.signature
  selector : e.selector = AbiBindings.selector r.signature
  fields : e.fields.map (·.type) = r.inputs
  fieldNames : (e.fields.map (·.name)).Nodup

/-- An event keeps of each input what a log keeps of it. -/
structure EventBinding.BoundTo (e : EventBinding) (r : ResolvedDeclaration) : Prop where
  abiName : e.abiName = r.declaration.nameOrKind
  signature : e.signature = r.signature
  topic : e.topic = eventTopic r.signature
  fields : e.fields.map (·.type) =
    (r.declaration.inputs.zip r.inputs).map fun x => loggedType x.1 x.2
  fieldNames : (e.fields.map (·.name)).Nodup

structure DeployHelper.BoundTo (helper : DeployHelper) (r : ResolvedDeclaration) : Prop where
  signature : helper.signature = some r.signature
  inputs : helper.inputs.map (·.type) = r.inputs

/-- A function before its methods and its encoder are named. -/
def functionFace (d : ResolvedDeclaration) : FunctionBinding := (bindFunction d "").1.face

section Bound

variable {mode : Representation} {keys : List ShapeKey} {r : ResolvedDeclaration}

theorem FunctionBinding.boundTo_of_face {f : FunctionBinding} (hs : r.Sound mode keys)
    (hk : r.declaration.kind = .function) (hface : f.face = functionFace r) : f.BoundTo r := by
  obtain ⟨hi, ho, hin, hon⟩ := bindFunction_spec hs hk ""
  simp only [face, functionFace, FunctionBinding.mk.injEq] at hface
  obtain ⟨hname, hsig, hsel, _, hinputs, houtputs, hvalue, _, _⟩ := hface
  rw [← hinputs] at hi hin
  rw [← houtputs] at ho hon
  rw [← hvalue] at hin
  exact ⟨hname, hsig, hsel, hi, ho, hin, hon⟩

theorem ErrorBinding.boundTo_of_face {e : ErrorBinding} (hs : r.Sound mode keys)
    (hface : e.face = errorFace r) : e.BoundTo r := by
  obtain ⟨⟨inputs, diags, scope⟩, hn⟩ :
    ∃ p, nameArguments r.origin r.declaration.inputs r.inputs = p := ⟨_, rfl⟩
  obtain ⟨ht, hg⟩ := nameArguments_spec hs.inputs.length hn
  simp only [face, errorFace, hn, ErrorBinding.mk.injEq] at hface
  obtain ⟨hname, hsig, hsel, _, hfields⟩ := hface
  rw [← hfields] at ht hg
  exact ⟨hname, hsig, hsel, ht, hg.nodup⟩

theorem EventBinding.boundTo_of_face {e : EventBinding} (hs : r.Sound mode keys)
    (hface : e.face = eventFace r) : e.BoundTo r := by
  obtain ⟨ht, hn⟩ := eventFields_spec hs.inputs.length
  simp only [face, eventFace, EventBinding.mk.injEq] at hface
  obtain ⟨hname, hsig, htopic, _, _, _, hfields⟩ := hface
  rw [← hfields] at ht hn
  exact ⟨hname, hsig, htopic, ht, hn⟩

end Bound

namespace ContractBindings.Compiled

variable {b : ContractBindings} {mode : Representation} {ds : List Declaration}
variable {bytecode : Option String} {rs : List ResolvedDeclaration} {g : Gathered}

theorem structKeys_eq (h : b.Compiled mode ds bytecode rs g) :
    structKeys b.structs = g.shapes.keys :=
  structKeys_of_bodies h.built.bodies

/-- Every declaration kept has types that the structs account for. -/
theorem sound (h : b.Compiled mode ds bytecode rs g) :
    ∀ r ∈ rs, r.Sound mode (structKeys b.structs) := by
  rw [h.structKeys_eq]
  exact (resolveDeclarations_spec Gathered.sound_empty h.lossless h.resolved).2.2

theorem function_faces (h : b.Compiled mode ds bytecode rs g) :
    b.functions.map (·.face) = ((overloads rs).flatMap (·.2)).map functionFace := by
  obtain ⟨claimed, hkept, hface⟩ := h.built.functions
  rw [hface, ← hkept, List.map_map]
  rfl

theorem function (h : b.Compiled mode ds bytecode rs g) {f : FunctionBinding}
    (hf : f ∈ b.functions) : ∃ r ∈ rs, r.declaration.kind = .function ∧ f.BoundTo r := by
  have hm : f.face ∈ ((overloads rs).flatMap (·.2)).map functionFace :=
    h.function_faces ▸ List.mem_map_of_mem hf
  obtain ⟨r, hr, hface⟩ := List.mem_map.mp hm
  obtain ⟨hr, hk⟩ := mem_overloads hr
  exact ⟨r, hr, hk, FunctionBinding.boundTo_of_face (h.sound r hr) hk hface.symm⟩

theorem error (h : b.Compiled mode ds bytecode rs g) {e : ErrorBinding} (he : e ∈ b.errors) :
    ∃ r ∈ rs, r.declaration.kind = .error ∧ e.BoundTo r := by
  have hm : e.face ∈ (ofKind .error rs).map errorFace := h.built.errors ▸ List.mem_map_of_mem he
  obtain ⟨r, hr, hface⟩ := List.mem_map.mp hm
  obtain ⟨hr, hk⟩ := List.mem_filter.mp hr
  exact ⟨r, hr, by simpa using hk, ErrorBinding.boundTo_of_face (h.sound r hr) hface.symm⟩

theorem event_face (h : b.Compiled mode ds bytecode rs g) {e : EventBinding} (he : e ∈ b.events) :
    ∃ r ∈ rs, r.declaration.kind = .event ∧ e.face = eventFace r := by
  have hm : e.face ∈ (ofKind .event rs).map eventFace := h.built.events ▸ List.mem_map_of_mem he
  obtain ⟨r, hr, hface⟩ := List.mem_map.mp hm
  obtain ⟨hr, hk⟩ := List.mem_filter.mp hr
  exact ⟨r, hr, by simpa using hk, hface.symm⟩

theorem event (h : b.Compiled mode ds bytecode rs g) {e : EventBinding} (he : e ∈ b.events) :
    ∃ r ∈ rs, r.declaration.kind = .event ∧ e.BoundTo r := by
  obtain ⟨r, hr, hk, hface⟩ := h.event_face he
  exact ⟨r, hr, hk, EventBinding.boundTo_of_face (h.sound r hr) hface⟩

/-- Deployment is by the first constructor declared, or takes no arguments. -/
theorem deploy (h : b.Compiled mode ds bytecode rs g) {helper : DeployHelper}
    (hd : b.deploy = some helper) :
    ((ds.find? fun d => d.kind = .constructor) = none ∧ helper.signature = none ∧
        helper.inputs = []) ∨
      ∃ r ∈ rs, (ds.find? fun d => d.kind = .constructor) = some r.declaration ∧
        helper.BoundTo r := by
  obtain ⟨code, _, rfl⟩ := Option.map_eq_some_iff.mp (h.built.deploy.symm.trans hd)
  have hfirst := resolveDeclarations_find .constructor rfl (by simp) h.resolved
  have hspec := (bindDeploy_spec h.sound code).2
  rw [← hfirst]
  split at hspec
  · rename_i hn
    rw [hn]
    exact .inl ⟨rfl, hspec⟩
  · rename_i r hr
    rw [hr]
    exact .inr ⟨r, List.mem_of_find?_eq_some hr, rfl, hspec.1, hspec.2⟩

/-- The arguments of deployment, the provider and the value go by different names. -/
theorem deployNames (h : b.Compiled mode ds bytecode rs g) {helper : DeployHelper}
    (hd : b.deploy = some helper) :
    (helper.inputs.map (·.name) ++ helper.providerParam :: helper.valueParam.toList).Nodup := by
  obtain ⟨code, _, rfl⟩ := Option.map_eq_some_iff.mp (h.built.deploy.symm.trans hd)
  exact (bindDeploy_spec h.sound code).1

end ContractBindings.Compiled

section Exchange

def orderParameter (name typeText : String) : Parameter where
  name
  typeText
  components := [{ name := "owner", typeText := "address" },
    { name := "amounts", typeText := "uint256[2]" }]

/-- Orders come bare, in arrays and inside another tuple, and a function is overloaded. -/
def exchange : List Declaration :=
  let bundle : Parameter := { name := "exchange", typeText := "tuple", components :=
    [orderParameter "inner" "tuple[3]", { name := "fee", typeText := "uint" }] }
  [{ kind := .constructor, inputs := [orderParameter "order" "tuple"], mutability := .payable },
    { kind := .function, name := some "submit", mutability := .payable
      inputs := [orderParameter "orders" "tuple[]", { name := "salt", typeText := "bytes32" }] },
    { kind := .function, name := some "submit", mutability := .view, inputs := [bundle]
      outputs := [{ name := "", typeText := "bool" }] },
    { kind := .event, name := some "Order"
      inputs := [{ orderParameter "order" "tuple" with indexed := true }] },
    { kind := .error, name := some "Rejected", inputs := [orderParameter "order" "tuple"] }]

def exchangeBindings : Except Failure ContractBindings :=
  (compileDeclarations { callAndSend := true } "Exchange" ⟨["market"]⟩ exchange
    (some "6000")).result

theorem ok_of_view {ε α β : Type} {x : Except ε α} {view : α → β} {shown : β}
    (h : x.toOption.map view = some shown) : ∃ a, x = .ok a ∧ view a = shown := by
  cases x with
  | error e => cases h
  | ok a => exact ⟨a, rfl, Option.some.inj h⟩

theorem exchangeBindings_ok : ∃ b, exchangeBindings = .ok b ∧
    (b.functions.map (·.signature), b.typeNames, b.methodNames, b.structs.length) =
      (["submit((address,uint256[2])[],bytes32)", "submit(((address,uint256[2])[3],uint256))"],
        ["Exchange", "Order", "Exchange2", "OrderEvent", "RejectedError"],
        ["call_submit", "submit", "submit_with_tuple", "send_submit_with_tuple", "order_events",
          "encode_submit", "encode_submit_with_tuple"], 2) :=
  ok_of_view (by decide +kernel)

end Exchange

end AbiBindings
