import AbiBindings.Proofs.CoinedNames
import AbiBindings.Proofs.Compilation

namespace AbiBindings

def StructDefinition.identifiers (d : StructDefinition) : List String :=
  d.name :: d.fields.map (·.name)

def FunctionBinding.ownNames (f : FunctionBinding) : List String :=
  f.methodNames ++ (f.inputs.map (·.name) ++ (f.outputs.map (·.name) ++ f.valueParam.toList))

def FunctionBinding.identifiers (f : FunctionBinding) : List String := f.encoder :: f.ownNames

def EventBinding.identifiers (e : EventBinding) : List String :=
  e.recordName :: e.filterMethod :: e.fields.map (·.name)

def ErrorBinding.identifiers (e : ErrorBinding) : List String :=
  e.recordName :: e.fields.map (·.name)

def DeployHelper.identifiers (helper : DeployHelper) : List String :=
  helper.providerParam :: (helper.inputs.map (·.name) ++ helper.valueParam.toList)

/-- All names that the generated code of a contract gives to something, its file included. -/
def ContractBindings.identifiers (b : ContractBindings) : List String :=
  b.fileStem :: b.typeName ::
    (b.structs.flatMap (·.identifiers) ++ (b.functions.flatMap (·.identifiers) ++
      (b.events.flatMap (·.identifiers) ++ (b.errors.flatMap (·.identifiers) ++
        b.deploy.toList.flatMap (·.identifiers)))))

structure Declaration.NamesIn (Raw : String → Prop) (d : Declaration) : Prop where
  name : Raw d.nameOrKind
  inputs : ∀ p ∈ d.inputs, Raw p.name
  outputs : ∀ p ∈ d.outputs, Raw p.name

structure Shape.NamesIn (Raw : String → Prop) (s : Shape) : Prop where
  hint : ∀ name ∈ s.hint, Raw name
  fields : ∀ f ∈ s.fields, Raw f.1

variable {Raw : String → Prop}

section Structs

variable {table : ShapeTable} {id : StructId} {scope scope' : Scope} {cs : List Candidate}
variable {names : List String} {structs : List StructDefinition} {ds : List Diagnostic}

theorem Shape.wanted_coined {shape : Shape} (h : shape.NamesIn Raw) (id : StructId) :
    Coined Raw (shape.wanted id) := by
  have hnumber : Coined Raw ("Struct" ++ toString id) := .counted (by decide) id
  simp only [wanted]
  split
  · rename_i name hname
    exact .type (h.hint name hname) hnumber
  · exact hnumber

theorem candidates_coined (ht : ∀ shape ∈ table, shape.NamesIn Raw)
    (h : candidates id scope table = (cs, scope')) : ∀ c ∈ cs, Coined Raw c.wanted := by
  induction table generalizing id scope cs with
  | nil =>
    cases h
    simp
  | cons shape table ih =>
    obtain ⟨hfirst, hrest⟩ := List.forall_mem_cons.mp ht
    obtain ⟨granted, scope₁, rest, _, hr, rfl⟩ := candidates_cons h
    exact List.forall_mem_cons.mpr ⟨Shape.wanted_coined hfirst id, ih hrest hr⟩

/-- A numbered struct name is made from a wanted one. -/
theorem settleNames_coined {contractType : String} {granted : List String}
    (hc : ∀ c ∈ cs, Coined Raw c.wanted)
    (h : settleNames contractType granted scope cs = (names, ds, scope')) :
    ∀ name ∈ names, Coined Raw name := by
  induction cs generalizing granted scope names ds with
  | nil =>
    cases h
    simp
  | cons c cs ih =>
    obtain ⟨hfirst, hrest⟩ := List.forall_mem_cons.mp hc
    rcases settleNames_cons h with
      ⟨_, rest, ds₁, hr, rfl⟩ | ⟨_, name, scope₁, rest, ds₁, hn, hr, rfl⟩
    · exact List.forall_mem_cons.mpr ⟨hfirst, ih hrest hr⟩
    · exact List.forall_mem_cons.mpr ⟨hfirst.claimNumbered (by decide) hn, ih hrest hr⟩

/-- The names in a struct are its own name and those of its fields. -/
theorem Shape.define_coined {shape : Shape} {name : String} {d : StructDefinition}
    (hs : shape.NamesIn Raw) (hn : Coined Raw name) (h : shape.define id name = (d, ds)) :
    ∀ n ∈ d.identifiers, Coined Raw n := by
  obtain ⟨claims, scope, hc, rfl⟩ := define_ok h
  have hclaims := Naming.claimMembers_coined (by decide) (List.forall_mem_map.mpr hs.fields) hc
  refine List.forall_mem_cons.mpr ⟨hn, List.forall_mem_map.mpr (List.forall_mem_map.mpr ?_)⟩
  exact fun x hx => hclaims x.1 (List.of_mem_zip hx).1

theorem defineAll_coined {pairs : List (Shape × String)}
    (hp : ∀ pair ∈ pairs, pair.1.NamesIn Raw ∧ Coined Raw pair.2)
    (h : defineAll id pairs = (structs, ds)) :
    ∀ d ∈ structs, ∀ n ∈ d.identifiers, Coined Raw n := by
  induction pairs generalizing id structs ds with
  | nil =>
    cases h
    simp
  | cons pair pairs ih =>
    obtain ⟨⟨hshape, hname⟩, hrest⟩ := List.forall_mem_cons.mp hp
    obtain ⟨d, ds₁, rest, ds₂, hd, hr, rfl⟩ := defineAll_cons h
    exact List.forall_mem_cons.mpr ⟨Shape.define_coined hshape hname hd, ih hrest hr⟩

/-- All names in structs come from hints and from the names of tuple parts. -/
theorem ShapeTable.name_coined {contractType : String} (ht : ∀ shape ∈ table, shape.NamesIn Raw)
    (h : table.name scope contractType = (structs, ds, scope')) :
    ∀ d ∈ structs, ∀ n ∈ d.identifiers, Coined Raw n := by
  obtain ⟨cs, scope₁, names, renamed, fieldsRenamed, hc, hn, hd, _, _⟩ := name_ok h
  have hnames := settleNames_coined (candidates_coined ht hc) hn
  refine defineAll_coined ?_ hd
  intro pair hp
  obtain ⟨hshape, hname⟩ := List.of_mem_zip hp
  exact ⟨ht pair.1 hshape, hnames pair.2 hname⟩

end Structs

section Members

variable {params : List Parameter} {types : List Resolved}

/-- Arguments go by their own names, or by a label and their position. -/
theorem pairMembers_coined {label : String} (hl : label ∈ Naming.labels)
    (hp : ∀ p ∈ params, Raw p.name) :
    ∀ p ∈ pairMembers (Naming.claimMembers label 0 .empty (params.map (·.name))).1 types,
      Coined Raw p.name := by
  refine List.forall_mem_map.mpr fun x hx => ?_
  exact Naming.claimMembers_coined hl (List.forall_mem_map.mpr hp) rfl x.1 (List.of_mem_zip hx).1

theorem nameArguments_coined (origin : String) (hp : ∀ p ∈ params, Raw p.name) :
    ∀ p ∈ (nameArguments origin params types).1, Coined Raw p.name :=
  pairMembers_coined (by decide) hp

theorem nameResults_coined (hp : ∀ p ∈ params, Raw p.name) :
    ∀ p ∈ nameResults params types, Coined Raw p.name :=
  pairMembers_coined (by decide) hp

theorem valueArgument_coined (m : Mutability) (scope : Scope) :
    ∀ v ∈ valueArgument m scope, Coined Raw v := by
  simp only [valueArgument]
  split
  · rintro v ⟨⟩
    exact (Coined.label (by decide)).claimNumbered (by decide) rfl
  · rintro v ⟨⟩

theorem provider_coined (scope : Scope) :
    Coined Raw (scope.claimNumbered "provider" "_").1 :=
  (Coined.label (by decide)).claimNumbered (by decide) rfl

theorem eventFields_coined {d : ResolvedDeclaration} (hd : d.declaration.NamesIn Raw) :
    ∀ f ∈ (eventFields d).1, Coined Raw f.name := by
  obtain ⟨⟨claims, scope⟩, hc⟩ : ∃ p,
    Naming.claimMembers "param" 0 .empty (d.declaration.inputs.map (·.name)) = p := ⟨_, rfl⟩
  intro f hf
  have hm : f.name ∈ (eventFields d).1.map (·.name) := List.mem_map_of_mem hf
  simp only [eventFields, hc, placeFields_names] at hm
  obtain ⟨x, hx, he⟩ := List.mem_map.mp hm
  obtain ⟨c, hclaim, hname⟩ := List.mem_map.mp (List.of_mem_zip hx).1
  rw [← he, ← hname]
  exact Naming.claimMembers_coined (by decide) (List.forall_mem_map.mpr hd.inputs) hc c hclaim

end Members

section Functions

variable {scope scope' : Scope} {base : String} {isFirst : Bool} {ds : List ResolvedDeclaration}
variable {claimed : List (ResolvedDeclaration × String)}

theorem claimMethods_coined (hb : Coined Raw base)
    (h : claimMethods base isFirst scope ds = .ok (claimed, scope')) :
    ∀ x ∈ claimed, Coined Raw x.2 := by
  induction ds generalizing isFirst scope claimed with
  | nil =>
    cases h
    simp
  | cons d ds ih =>
    obtain ⟨wanted, method, scope₁, rest, hw, hc, hr, rfl⟩ := claimMethods_cons h
    exact List.forall_mem_cons.mpr ⟨(hb.wantedMethod hw).claimNumbered (by decide) hc, ih hr⟩

/-- The methods of functions come from the names of the functions. -/
theorem claimGroups_coined {groups : List (String × List ResolvedDeclaration)}
    (hg : ∀ group ∈ groups, Raw group.1) (h : claimGroups scope groups = .ok (claimed, scope')) :
    ∀ x ∈ claimed, Coined Raw x.2 := by
  induction groups generalizing scope claimed with
  | nil =>
    cases h
    simp
  | cons group groups ih =>
    obtain ⟨hfirst, hrest⟩ := List.forall_mem_cons.mp hg
    obtain ⟨methods, scope₁, rest, hm, hr, rfl⟩ := claimGroups_cons h
    exact List.forall_mem_append.mpr
      ⟨claimMethods_coined (.value hfirst (.label (by decide))) hm, ih hrest hr⟩

theorem overloads_named (hd : ∀ d ∈ ds, d.declaration.NamesIn Raw) :
    ∀ group ∈ overloads ds, Raw group.1 := by
  refine List.forall_mem_map.mpr fun name hname => ?_
  obtain ⟨d, hm, rfl⟩ := List.mem_map.mp (List.mem_eraseDups.mp hname)
  exact (hd d (List.mem_filter.mp hm).1).name

theorem FunctionBinding.forall_ownNames {f : FunctionBinding} {P : String → Prop} :
    (∀ n ∈ f.ownNames, P n) ↔ (∀ m ∈ f.methodNames, P m) ∧ (∀ p ∈ f.inputs, P p.name) ∧
      (∀ p ∈ f.outputs, P p.name) ∧ ∀ v ∈ f.valueParam, P v := by
  simp only [ownNames, List.forall_mem_append, List.forall_mem_map, Option.mem_toList,
    Option.mem_def]

/-- A function brings in the names of its arguments and results beside its method. -/
theorem bindFunction_coined {d : ResolvedDeclaration} {method : String}
    (hd : d.declaration.NamesIn Raw) (h : Coined Raw method) :
    ∀ n ∈ (bindFunction d method).1.ownNames, Coined Raw n := by
  rw [FunctionBinding.forall_ownNames, bindFunction_methodNames]
  exact ⟨by simpa using h, nameArguments_coined d.origin hd.inputs, nameResults_coined hd.outputs,
    valueArgument_coined _ _⟩

variable {methods methods' : Scope} {fs fs' : List FunctionBinding}

/-- An alternate is named after the method that is there. -/
theorem addAlternates_coined (hf : ∀ f ∈ fs, ∀ n ∈ f.ownNames, Coined Raw n)
    (h : addAlternates methods fs = (fs', methods')) :
    ∀ f ∈ fs', ∀ n ∈ f.ownNames, Coined Raw n := by
  induction fs generalizing methods fs' with
  | nil =>
    cases h
    simp
  | cons f fs ih =>
    obtain ⟨hfirst, hrest⟩ := List.forall_mem_cons.mp hf
    obtain ⟨f', methods₁, rest, hface, _, ⟨names, _, hp, hclaimed⟩, hr, rfl⟩ := addAlternates_cons h
    obtain ⟨hmethods, hothers⟩ := FunctionBinding.forall_ownNames.mp hfirst
    refine List.forall_mem_cons.mpr ⟨FunctionBinding.forall_ownNames.mpr ⟨?_, ?_⟩, ih hrest hr⟩
    · intro name hname
      rcases List.mem_append.mp (hp.mem_iff.mpr hname) with hname | hname
      · exact hmethods name hname
      · obtain ⟨start, hstart, method, hmethod, hc⟩ := hclaimed name hname
        have hheads : ["send_", "call_"] ⊆ Naming.heads := by decide
        exact ((hmethods method hmethod).head (hheads hstart)).claimNumbered (by decide) hc
    · rw [FunctionBinding.eq_of_face hface]
      exact hothers

theorem bindFunction_primary (d : ResolvedDeclaration) (method : String) :
    (bindFunction d method).1.primary = method := by
  simp only [bindFunction, FunctionBinding.primary]
  cases d.declaration.mutability.isReadOnly <;> rfl

/-- An encoder is named after a method. -/
theorem nameEncoders_coined {pairs : List (FunctionBinding × String)}
    (hp : ∀ x ∈ pairs, (∀ n ∈ x.1.ownNames, Coined Raw n) ∧ Coined Raw x.2)
    (h : nameEncoders methods pairs = (fs, methods')) :
    ∀ f ∈ fs, ∀ n ∈ f.identifiers, Coined Raw n := by
  induction pairs generalizing methods fs with
  | nil =>
    cases h
    simp
  | cons pair pairs ih =>
    obtain ⟨f, primary⟩ := pair
    obtain ⟨⟨hf, hprimary⟩, hrest⟩ := List.forall_mem_cons.mp hp
    obtain ⟨⟨encoder, methods₁⟩, hc⟩ :
      ∃ p, methods.claimNumbered ("encode_" ++ primary) "_" = p := ⟨_, rfl⟩
    obtain ⟨⟨rest, methods₂⟩, hr⟩ : ∃ p, nameEncoders methods₁ pairs = p := ⟨_, rfl⟩
    simp only [nameEncoders, hc, hr, Prod.mk.injEq] at h
    obtain ⟨rfl, rfl⟩ := h
    have hencoder := (Coined.head (by decide) hprimary).claimNumbered (by decide) hc
    exact List.forall_mem_cons.mpr ⟨List.forall_mem_cons.mpr ⟨hencoder, hf⟩, ih hrest hr⟩

end Functions

section Records

variable {types types' methods methods' : Scope} {ds : List ResolvedDeclaration}
variable {diagnostics : List Diagnostic}

/-- A record is named after the event or error, with the suffix. -/
theorem claimRecord_coined {abiName suffix name : String} (hr : Raw abiName)
    (hl : suffix ∈ Naming.labels) (ht : IsTail suffix)
    (h : claimRecord abiName suffix types = (name, types')) : Coined Raw name := by
  refine Coined.claimNumbered ?_ (by decide) h
  have hname : Coined Raw (Naming.typeIdent abiName suffix) := .type hr (.label hl)
  split
  · exact hname
  · exact hname.tail ht

theorem bindEvents_coined {events : List EventBinding}
    (hd : ∀ d ∈ ds, d.declaration.NamesIn Raw)
    (h : bindEvents types methods ds = (events, diagnostics, types', methods')) :
    ∀ e ∈ events, ∀ n ∈ e.identifiers, Coined Raw n := by
  induction ds generalizing types methods events diagnostics with
  | nil =>
    cases h
    simp
  | cons d ds ih =>
    obtain ⟨hfirst, hrest⟩ := List.forall_mem_cons.mp hd
    obtain ⟨⟨record, types₁⟩, hr⟩ :
      ∃ p, claimRecord d.declaration.nameOrKind "Event" types = p := ⟨_, rfl⟩
    obtain ⟨⟨filter, methods₁⟩, hf⟩ : ∃ p, methods.claimNumbered
      (Naming.valueIdent d.declaration.nameOrKind "log" ++ "_events") "_" = p := ⟨_, rfl⟩
    obtain ⟨⟨events', more, types₂, methods₂⟩, hevents⟩ :
      ∃ p, bindEvents types₁ methods₁ ds = p := ⟨_, rfl⟩
    simp only [bindEvents, hr, hf, hevents, Prod.mk.injEq] at h
    obtain ⟨rfl, _, rfl, rfl⟩ := h
    have hrecord := claimRecord_coined hfirst.name (by decide) ⟨by decide, 'E', by decide⟩ hr
    have hwanted : Coined Raw (Naming.valueIdent d.declaration.nameOrKind "log" ++ "_events") :=
      (Coined.value hfirst.name (.label (by decide))).tail ⟨by decide, '_', by decide⟩
    refine List.forall_mem_cons.mpr ⟨?_, ih hrest hevents⟩
    simp only [EventBinding.identifiers, List.forall_mem_cons, List.forall_mem_map]
    exact ⟨hrecord, hwanted.claimNumbered (by decide) hf, eventFields_coined hfirst⟩

theorem bindErrors_coined {errors : List ErrorBinding}
    (hd : ∀ d ∈ ds, d.declaration.NamesIn Raw)
    (h : bindErrors types ds = (errors, diagnostics, types')) :
    ∀ e ∈ errors, ∀ n ∈ e.identifiers, Coined Raw n := by
  induction ds generalizing types errors diagnostics with
  | nil =>
    cases h
    simp
  | cons d ds ih =>
    obtain ⟨hfirst, hrest⟩ := List.forall_mem_cons.mp hd
    obtain ⟨⟨record, types₁⟩, hr⟩ :
      ∃ p, claimRecord d.declaration.nameOrKind "Error" types = p := ⟨_, rfl⟩
    obtain ⟨⟨errors', more, types₂⟩, herrors⟩ : ∃ p, bindErrors types₁ ds = p := ⟨_, rfl⟩
    simp only [bindErrors, hr, herrors, Prod.mk.injEq] at h
    obtain ⟨rfl, _, rfl⟩ := h
    have hrecord := claimRecord_coined hfirst.name (by decide) ⟨by decide, 'E', by decide⟩ hr
    refine List.forall_mem_cons.mpr ⟨?_, ih hrest herrors⟩
    simp only [ErrorBinding.identifiers, List.forall_mem_cons, List.forall_mem_map]
    exact ⟨hrecord, nameArguments_coined d.origin hfirst.inputs⟩

theorem bindDeploy_coined (hd : ∀ d ∈ ds, d.declaration.NamesIn Raw) (bytecode : String) :
    ∀ n ∈ (bindDeploy ds bytecode).1.identifiers, Coined Raw n := by
  simp only [bindDeploy]
  split
  · simp only [DeployHelper.identifiers, List.forall_mem_cons]
    exact ⟨provider_coined _, by simp⟩
  · rename_i d hfind
    have hraw := hd d (List.mem_of_find?_eq_some hfind)
    simp only [DeployHelper.identifiers, List.forall_mem_cons, List.forall_mem_append,
      List.forall_mem_map, Option.mem_toList]
    exact ⟨provider_coined _, nameArguments_coined d.origin hraw.inputs, valueArgument_coined _ _⟩

end Records

theorem nameContract_coined {contractName typeName : String} {diagnostics : List Diagnostic}
    {types : Scope} (hr : Raw contractName)
    (h : nameContract contractName = (typeName, diagnostics, types)) : Coined Raw typeName := by
  simp only [nameContract, Prod.mk.injEq] at h
  rw [← h.1]
  exact (Coined.type hr (.label (by decide))).claimNumbered (by decide) rfl

/-- The file is named after the contract and nothing else. -/
theorem buildBindings_fileStem {options : Options} {contractName : String}
    {modulePath : ModulePath} {shapes : ShapeTable} {ds : List ResolvedDeclaration}
    {bytecode : Option String} {b : ContractBindings}
    (h : (buildBindings options contractName modulePath shapes ds bytecode).result = .ok b) :
    b.fileStem = Naming.valueIdent contractName "contract" := by
  simp only [buildBindings] at h
  split at h
  · cases h
  · rw [← Except.ok.inj h]

section Building

variable {options : Options} {contractName : String} {shapes : ShapeTable}
variable {ds : List ResolvedDeclaration} {bytecode : Option String} {b : ContractBindings}

theorem ContractBindings.Stages.bound_coined
    (s : b.Stages options contractName shapes ds bytecode)
    (hd : ∀ d ∈ ds, d.declaration.NamesIn Raw) :
    ∀ f ∈ s.bound, (∀ n ∈ f.ownNames, Coined Raw n) ∧ Coined Raw f.primary := by
  rw [← s.bind]
  refine List.forall_mem_map.mpr fun x hx => ?_
  have hmem : x.1 ∈ (overloads ds).flatMap (·.2) := by
    rw [← (claimGroups_spec s.claim).1]
    exact List.mem_map_of_mem hx
  have hmethod : Coined Raw x.2 := claimGroups_coined (overloads_named hd) s.claim x hx
  rw [bindFunction_primary]
  exact ⟨bindFunction_coined (hd x.1 (mem_overloads hmem).1) hmethod, hmethod⟩

/-- All names in functions come from the names that their declarations give. -/
theorem ContractBindings.Stages.functions_coined
    (s : b.Stages options contractName shapes ds bytecode)
    (hd : ∀ d ∈ ds, d.declaration.NamesIn Raw) :
    ∀ f ∈ b.functions, ∀ n ∈ f.identifiers, Coined Raw n := by
  have hbound := s.bound_coined hd
  have hfunctions : ∀ f ∈ s.functions, ∀ n ∈ f.ownNames, Coined Raw n := by
    have halternates := s.alternates
    split at halternates
    · exact addAlternates_coined (fun f hf => (hbound f hf).1) halternates
    · rw [← (Prod.mk.inj halternates).1]
      exact fun f hf => (hbound f hf).1
  refine nameEncoders_coined ?_ s.encoders
  intro x hx
  obtain ⟨hf, hp⟩ := List.of_mem_zip hx
  obtain ⟨f, hm, he⟩ := List.mem_map.mp hp
  exact ⟨hfunctions x.1 hf, he ▸ (hbound f hm).2⟩

/-- Every name in the generated code is coined from the raw names of contract, shapes and
declarations. -/
theorem buildBindings_coined {modulePath : ModulePath}
    (h : (buildBindings options contractName modulePath shapes ds bytecode).result = .ok b)
    (hc : Raw contractName) (hs : ∀ shape ∈ shapes, shape.NamesIn Raw)
    (hd : ∀ d ∈ ds, d.declaration.NamesIn Raw) : ∀ n ∈ b.identifiers, Coined Raw n := by
  obtain ⟨⟨stages⟩, _⟩ := buildBindings_stages h
  have hkind : ∀ kind, ∀ d ∈ ofKind kind ds, d.declaration.NamesIn Raw :=
    fun kind d hm => hd d (List.mem_filter.mp hm).1
  obtain ⟨_, hcontract⟩ := stages.handle
  obtain ⟨_, hstructs⟩ := stages.structs
  obtain ⟨_, hevents⟩ := stages.events
  obtain ⟨_, herrors⟩ := stages.errors
  simp only [ContractBindings.identifiers, List.forall_mem_cons, List.forall_mem_append,
    List.forall_mem_flatMap, Option.mem_toList]
  refine ⟨?_, nameContract_coined hc hcontract, ShapeTable.name_coined hs hstructs,
    stages.functions_coined hd, bindEvents_coined (hkind .event) hevents,
    bindErrors_coined (hkind .error) herrors, ?_⟩
  · rw [buildBindings_fileStem h]
    exact .value hc (.label (by decide))
  · rintro helper hh
    obtain ⟨code, _, rfl⟩ := Option.map_eq_some_iff.mp (stages.deploy.symm.trans hh)
    exact bindDeploy_coined hd code

end Building

end AbiBindings
