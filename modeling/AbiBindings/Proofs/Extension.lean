import AbiBindings.Proofs.CallingWays

namespace AbiBindings

section Resolving

variable {mode : Representation} {seen : List (Kind × String)} {g g' : Gathered}
variable {ds es : List Declaration} {rs' : List ResolvedDeclaration}

/-- Declarations that follow others are resolved from where those left off. -/
theorem resolveDeclarations_append
    (h : (resolveDeclarations mode seen g (ds ++ es)).2 = .ok (rs', g')) :
    ∃ rs g₁ seen₁ more, (resolveDeclarations mode seen g ds).2 = .ok (rs, g₁) ∧
      (resolveDeclarations mode seen₁ g₁ es).2 = .ok (more, g') ∧ rs' = rs ++ more := by
  induction ds generalizing seen g rs' with
  | nil => exact ⟨[], g, seen, rs', rfl, h, rfl⟩
  | cons d ds ih =>
    obtain ⟨sig, hsig, ⟨hm, hrest⟩ | ⟨hm, r, g₁, rest, hr, hrest, rfl⟩⟩ :=
      resolveDeclarations_cons h
    · obtain ⟨rs, g₂, seen₁, more, hds, hes, rfl⟩ := ih hrest
      refine ⟨rs, g₂, seen₁, more, ?_, hes, rfl⟩
      simp only [resolveDeclarations, hsig, if_pos hm, hds]
    · obtain ⟨rs, g₂, seen₁, more, hds, hes, rfl⟩ := ih hrest
      refine ⟨r :: rs, g₂, seen₁, more, ?_, hes, rfl⟩
      simp only [resolveDeclarations, hsig, if_neg hm, hr, hds]
      rfl

end Resolving

section Shapes

variable {mode : Representation} {table table' : ShapeTable}

/-- The fields of a shape follow from the keys up to its own, so bodies last where keys do. -/
theorem ShapeTable.Grown.bodies_prefix (hg : table.Grown mode) (hg' : table'.Grown mode)
    (hk : table.keys <+: table'.keys) : table.map Shape.body <+: table'.map Shape.body := by
  have hlen : table.length ≤ table'.length := by simpa using hk.length_le
  refine List.prefix_iff_getElem.mpr ⟨by simpa using hlen, ?_⟩
  intro i hi
  have hi : i < table.length := by simpa using hi
  have hi' : i < table'.length := Nat.lt_of_lt_of_le hi hlen
  obtain ⟨⟨parts, hparts⟩, hd⟩ := hg i table[i] (List.getElem?_eq_getElem hi)
  obtain ⟨⟨parts', hparts'⟩, hd'⟩ := hg' i table'[i] (List.getElem?_eq_getElem hi')
  have htake : table'.keys.take i = table.keys.take i := by
    obtain ⟨rest, hrest⟩ := hk
    rw [← hrest, List.take_append_of_le_length (by simpa using hi.le)]
  have hkey : shapeKey table[i].fields = shapeKey table'[i].fields := by
    simpa [keys] using hk.getElem (by simpa using hi)
  rw [htake] at hparts'
  have hfields : table[i].fields = table'[i].fields := by
    obtain rfl := TypeTree.resolveParts_key_injective parts parts' hparts hparts' hkey
    exact Option.some.inj (hparts.symm.trans hparts')
  simp only [List.getElem_map, Shape.body, hd, hd', hfields]

def structOf (id : StructId) (body : List (String × Resolved) × Bool) : StructDefinition :=
  ((⟨none, "", body.1, body.2⟩ : Shape).define id "").1

def StructDefinition.unnamed (d : StructDefinition) : StructDefinition := { d with name := "" }

theorem StructDefinition.eq_of_unnamed {d d' : StructDefinition} (h : d'.unnamed = d.unnamed) :
    d' = { d with name := d'.name } := by
  cases d
  cases d'
  simp only [unnamed, mk.injEq] at h ⊢
  tauto

/-- Names aside, structs are the shapes in their order. -/
theorem defineAll_unnamed {id : StructId} {pairs : List (Shape × String)}
    {structs : List StructDefinition} {ds : List Diagnostic}
    (h : defineAll id pairs = (structs, ds)) :
    structs.map (·.unnamed) = (pairs.map (·.1.body)).mapIdx fun i body => structOf (id + i) body := by
  induction pairs generalizing id structs ds with
  | nil =>
    cases h
    rfl
  | cons pair pairs ih =>
    obtain ⟨shape, name⟩ := pair
    obtain ⟨d, ds₁, rest, ds₂, hd, hr, rfl⟩ := defineAll_cons h
    obtain ⟨claims, scope, hc, rfl⟩ := Shape.define_ok hd
    rw [List.map_cons, ih hr, List.map_cons, List.mapIdx_cons]
    congr 1
    · simp [StructDefinition.unnamed, structOf, Shape.define, Shape.body, hc]
    · simp [Nat.add_assoc, Nat.add_comm 1]

/-- Nothing of a struct but its name depends on more than the body and the place of its shape. -/
theorem ShapeTable.name_unnamed {scope scope' : Scope} {contractType : String}
    {structs : List StructDefinition} {ds : List Diagnostic}
    (h : table.name scope contractType = (structs, ds, scope')) :
    structs.map (·.unnamed) = (table.map Shape.body).mapIdx structOf := by
  obtain ⟨_, _, names, _, _, _, _, hd, _, hlen⟩ := name_ok h
  have hshapes : (table.zip names).map (·.1) = table :=
    List.map_fst_zip (Nat.le_of_eq hlen.symm)
  have hbodies : (table.zip names).map (·.1.body) = table.map Shape.body :=
    map_of_map hshapes Shape.body
  rw [defineAll_unnamed hd, hbodies]
  simp

end Shapes

section Overloads

variable {rs more : List ResolvedDeclaration}

/-- Functions under new names make groups of their own, after those there were. -/
theorem overloads_append
    (hnew : ∀ r ∈ more, r.declaration.kind = .function → ∀ q ∈ rs, q.declaration.kind = .function →
      r.declaration.nameOrKind ≠ q.declaration.nameOrKind) :
    overloads (rs ++ more) = overloads rs ++ overloads more := by
  obtain ⟨fs, hfs⟩ : ∃ fs, rs.filter (fun d => d.declaration.kind = .function) = fs := ⟨_, rfl⟩
  obtain ⟨gs, hgs⟩ : ∃ gs, more.filter (fun d => d.declaration.kind = .function) = gs := ⟨_, rfl⟩
  have hapart : ∀ g ∈ gs, ∀ f ∈ fs, g.declaration.nameOrKind ≠ f.declaration.nameOrKind := by
    subst hfs hgs
    simp only [List.mem_filter, decide_eq_true_eq]
    rintro g ⟨hg, hgk⟩ f ⟨hf, hfk⟩
    exact hnew g hg hgk f hf hfk
  have hnames : (gs.map fun d => d.declaration.nameOrKind).removeAll
      (fs.map fun d => d.declaration.nameOrKind) = gs.map fun d => d.declaration.nameOrKind := by
    refine List.filter_eq_self.mpr ?_
    simpa using fun g hg f hf => (hapart g hg f hf).symm
  simp only [overloads, List.filter_append, hfs, hgs, List.map_append, List.eraseDups_append,
    hnames]
  congr 1
  · refine List.map_congr_left fun name hname => ?_
    obtain ⟨f, hf, rfl⟩ := List.mem_map.mp (List.mem_eraseDups.mp hname)
    have hnone : gs.filter (fun d => d.declaration.nameOrKind = f.declaration.nameOrKind) = [] :=
      List.filter_eq_nil_iff.mpr fun g hg => by simpa using hapart g hg f hf
    rw [hnone, List.append_nil]
  · refine List.map_congr_left fun name hname => ?_
    obtain ⟨g, hg, rfl⟩ := List.mem_map.mp (List.mem_eraseDups.mp hname)
    have hnone : fs.filter (fun d => d.declaration.nameOrKind = g.declaration.nameOrKind) = [] :=
      List.filter_eq_nil_iff.mpr fun f hf => by simpa using (hapart g hg f hf).symm
    rw [hnone, List.nil_append]

/-- Groups that come later take no name from those before. -/
theorem claimGroups_append {scope scope' : Scope}
    {groups later : List (String × List ResolvedDeclaration)}
    {claimed' : List (ResolvedDeclaration × String)}
    (h : claimGroups scope (groups ++ later) = .ok (claimed', scope')) :
    ∃ claimed scope₁ rest, claimGroups scope groups = .ok (claimed, scope₁) ∧
      claimed' = claimed ++ rest := by
  induction groups generalizing scope claimed' with
  | nil => exact ⟨[], scope, claimed', rfl, rfl⟩
  | cons group groups ih =>
    obtain ⟨methods, scope₁, rest, hm, hr, rfl⟩ := claimGroups_cons h
    obtain ⟨claimed, scope₂, rest, hc, rfl⟩ := ih hr
    refine ⟨methods ++ claimed, scope₂, rest, ?_, (List.append_assoc ..).symm⟩
    simp only [claimGroups, hm, hc]
    rfl

end Overloads

namespace FunctionBinding

def methodFor (m : Mutability) (f : FunctionBinding) : Option String :=
  if m.isReadOnly then f.call else f.transaction

/-- A function made from a declaration, whose mutability asks for the method given to it. -/
structure MadeOf (f : FunctionBinding) (x : ResolvedDeclaration × String) : Prop where
  face : f.face = functionFace x.1
  method : f.methodFor x.1.declaration.mutability = some x.2

/-- A function beside which others were added: the same under the same method of the way that its
mutability asks for. -/
structure Lasts (m : Mutability) (f f' : FunctionBinding) : Prop where
  rest : f' = { f with encoder := f'.encoder, call := f'.call, transaction := f'.transaction }
  method : ∃ method, f.methodFor m = some method ∧ f'.methodFor m = some method

end FunctionBinding

section Functions

variable {methods methods' : Scope} {fs gs : List FunctionBinding}

/-- What holds of functions whatever their encoders are called still holds when these are named. -/
theorem nameEncoders_forall₂ {α : Type} {P : α → FunctionBinding → Prop} {xs : List α}
    {primaries : List String} (hP : ∀ x f encoder, P x f → P x { f with encoder })
    (hall : List.Forall₂ P xs fs) (hl : primaries.length = fs.length)
    (h : nameEncoders methods (fs.zip primaries) = (gs, methods')) : List.Forall₂ P xs gs := by
  induction hall generalizing methods primaries gs with
  | nil =>
    cases h
    exact .nil
  | @cons x f xs fs hf _ ih =>
    cases primaries with
    | nil => cases hl
    | cons primary primaries =>
      obtain ⟨⟨encoder, methods₁⟩, hc⟩ :
        ∃ p, methods.claimNumbered ("encode_" ++ primary) "_" = p := ⟨_, rfl⟩
      obtain ⟨⟨rest, methods₂⟩, hr⟩ :
        ∃ p, nameEncoders methods₁ (fs.zip primaries) = p := ⟨_, rfl⟩
      simp only [List.zip_cons_cons, nameEncoders, hc, hr, Prod.mk.injEq] at h
      obtain ⟨rfl, rfl⟩ := h
      exact .cons (hP x f encoder hf) (ih (Nat.succ.inj hl) hr)

theorem bindFunction_reads (d : ResolvedDeclaration) (method : String) :
    (bindFunction d method).1.call.isSome = d.declaration.mutability.isReadOnly := by
  have hways := congrArg (·.1) (bindFunction_ways d method)
  simpa [FunctionBinding.ways, ResolvedDeclaration.ways] using hways

theorem bindFunction_madeOf (x : ResolvedDeclaration × String) :
    (bindFunction x.1 x.2).1.MadeOf x := by
  refine ⟨rfl, ?_⟩
  simp only [bindFunction, FunctionBinding.methodFor]
  split <;> rfl

/-- The way of calling that was there stays as it is when the other is added. -/
theorem FunctionBinding.MadeOf.gains {f f' : FunctionBinding} {x : ResolvedDeclaration × String}
    (h : f.MadeOf x) (hg : f.Gains x.1.declaration.mutability.isReadOnly f') : f'.MadeOf x := by
  obtain ⟨hface, hmethod⟩ := h
  refine ⟨?_, ?_⟩
  · rw [← hface, hg.rest]
    rfl
  · cases hr : x.1.declaration.mutability.isReadOnly with
    | true =>
      simp only [FunctionBinding.methodFor, hr, ↓reduceIte] at hmethod ⊢
      obtain ⟨_, _, method, hcall, hcall'⟩ := hg.reading hr
      rw [hcall', ← hcall, hmethod]
    | false =>
      simp only [FunctionBinding.methodFor, hr, Bool.false_eq_true, ↓reduceIte] at hmethod ⊢
      obtain ⟨_, _, method, hsend, hsend'⟩ := hg.sending hr
      rw [hsend', ← hsend, hmethod]

variable {b : ContractBindings} {options : Options} {contractName : String} {shapes : ShapeTable}
variable {ds : List ResolvedDeclaration} {bytecode : Option String}

/-- Functions are made from what was claimed for them, in that order. -/
theorem ContractBindings.Stages.madeOf (s : b.Stages options contractName shapes ds bytecode) :
    List.Forall₂ (fun x f => f.MadeOf x) s.claimed b.functions := by
  have hbound : List.Forall₂ (fun x f => f.MadeOf x) s.claimed s.bound := by
    rw [← s.bind, List.forall₂_map_right_iff, List.forall₂_same]
    exact fun x _ => bindFunction_madeOf x
  have hfunctions : List.Forall₂ (fun x f => f.MadeOf x) s.claimed s.functions := by
    have halternates := s.alternates
    cases hboth : options.callAndSend with
    | false =>
      rw [hboth, if_neg (by simp)] at halternates
      exact (Prod.mk.inj halternates).1 ▸ hbound
    | true =>
      rw [hboth, if_pos rfl] at halternates
      have hone : ∀ f ∈ s.bound, f.transaction.isSome = !f.call.isSome := by
        rw [← s.bind]
        exact List.forall_mem_map.mpr fun x _ => bindFunction_oneWay x.1 x.2
      obtain ⟨hgains, _⟩ := addAlternates_gains halternates hone
      rw [← s.bind, List.forall₂_map_left_iff] at hgains
      refine hgains.imp fun x f hf => (bindFunction_madeOf x).gains ?_
      rwa [bindFunction_reads] at hf
  refine nameEncoders_forall₂ ?_ hfunctions ?_ s.encoders
  · intro x f encoder hf
    exact ⟨hf.face, hf.method⟩
  · rw [List.length_map, ← hbound.length_eq, hfunctions.length_eq]

end Functions

section Units

variable {options : Options} {contractName : String} {modulePath : ModulePath}
variable {ds es : List Declaration} {bytecode : Option String} {b b' : ContractBindings}

/-- Two functions made alike last from one to the other. -/
theorem FunctionBinding.MadeOf.lasts {f f' : FunctionBinding} {x : ResolvedDeclaration × String}
    (h : f.MadeOf x) (h' : f'.MadeOf x) : f.Lasts x.1.declaration.mutability f' :=
  ⟨eq_of_face (h'.face.trans h.face.symm), x.2, h.method, h'.method⟩

section Stages

variable {shapes shapes' : ShapeTable} {rs more : List ResolvedDeclaration}

/-- Later groups of functions claim their methods after the earlier ones, which get the same. -/
theorem functions_last (s : b.Stages options contractName shapes rs bytecode)
    (s' : b'.Stages options contractName shapes' (rs ++ more) bytecode)
    (hgroups : overloads (rs ++ more) = overloads rs ++ overloads more) {i : Nat}
    {f : FunctionBinding} (hf : b.functions[i]? = some f) :
    ∃ x f', x ∈ s.claimed ∧ f.MadeOf x ∧ b'.functions[i]? = some f' ∧ f'.MadeOf x := by
  have hclaim' := s'.claim
  rw [hgroups] at hclaim'
  obtain ⟨claimed, scope, later, hclaim, hclaimed'⟩ := claimGroups_append hclaim'
  cases hclaim.symm.trans s.claim
  obtain ⟨x, hx, hmade⟩ := forall₂_getElem? s.madeOf.flip hf
  have hx' : s'.claimed[i]? = some x := by
    rw [hclaimed', List.getElem?_append_left (List.getElem?_eq_some_iff.mp hx).1, hx]
  obtain ⟨f', hf', hmade'⟩ := forall₂_getElem? s'.madeOf hx'
  exact ⟨x, f', List.mem_of_getElem? hx, hmade, hf', hmade'⟩

/-- A struct of the shorter interface is one of the longer, at its place and but for its name. -/
theorem structs_last (s : b.Stages options contractName shapes rs bytecode)
    (s' : b'.Stages options contractName shapes' (rs ++ more) bytecode)
    (hp : shapes.map Shape.body <+: shapes'.map Shape.body) {i : Nat} {d : StructDefinition}
    (hd : b.structs[i]? = some d) : ∃ d', b'.structs[i]? = some d' ∧ d'.unnamed = d.unnamed := by
  obtain ⟨_, hstructs⟩ := s.structs
  obtain ⟨_, hstructs'⟩ := s'.structs
  have hunnamed : b.structs.map (·.unnamed) <+: b'.structs.map (·.unnamed) := by
    obtain ⟨later, hlater⟩ := hp
    rw [ShapeTable.name_unnamed hstructs, ShapeTable.name_unnamed hstructs', ← hlater,
      List.mapIdx_append]
    exact List.prefix_append _ _
  obtain ⟨later, hlater⟩ := hunnamed
  have hi : i < (b.structs.map (·.unnamed)).length := by
    simpa using (List.getElem?_eq_some_iff.mp hd).1
  have hd' : (b'.structs.map (·.unnamed))[i]? = some d.unnamed := by
    rw [← hlater, List.getElem?_append_left hi, List.getElem?_map, hd]
    rfl
  rw [List.getElem?_map] at hd'
  exact Option.map_eq_some_iff.mp hd'

end Stages

/-- Declarations after others, whose functions have new names, leave the functions and structs there
were at their places. Functions keep all but encoders and added methods, structs all but names. -/
theorem later_declarations_add
    (h : (compileDeclarations options contractName modulePath ds bytecode).result = .ok b)
    (h' : (compileDeclarations options contractName modulePath (ds ++ es) bytecode).result = .ok b')
    (hnew : ∀ e ∈ es, e.kind = .function → ∀ d ∈ ds, d.kind = .function →
      e.nameOrKind ≠ d.nameOrKind) :
    (∀ (i : Nat) f, b.functions[i]? = some f → ∃ d f',
      firstDeclared ds .function f.signature = some d ∧ b'.functions[i]? = some f' ∧
        f.Lasts d.mutability f') ∧
      ∀ (i : Nat) s, b.structs[i]? = some s → ∃ s', b'.structs[i]? = some s' ∧
        s' = { s with name := s'.name } := by
  obtain ⟨rs, g, hc, hbuilt, _⟩ := compileDeclarations_run h
  obtain ⟨rs', g', hc', hbuilt', _⟩ := compileDeclarations_run h'
  obtain ⟨rs₁, g₁, seen, more, hds, hes, rfl⟩ := resolveDeclarations_append hc'.resolved
  cases hds.symm.trans hc.resolved
  obtain ⟨⟨stages⟩, _⟩ := buildBindings_stages hbuilt
  obtain ⟨⟨stages'⟩, _⟩ := buildBindings_stages hbuilt'
  refine ⟨?_, ?_⟩
  · intro i f hf
    have hgroups : overloads (rs ++ more) = overloads rs ++ overloads more :=
      overloads_append fun e he hek d hd hdk =>
        hnew _ (resolveDeclarations_mem hes he) hek _ (resolveDeclarations_mem hds hd) hdk
    obtain ⟨x, f', hx, hmade, hf', hmade'⟩ := functions_last stages stages' hgroups hf
    have hmem : x.1 ∈ (overloads rs).flatMap (·.2) := by
      rw [← (claimGroups_spec stages.claim).1]
      exact List.mem_map_of_mem hx
    obtain ⟨hrs, hk⟩ := mem_overloads hmem
    have hsig : x.1.signature = f.signature := congrArg (·.signature) hmade.face.symm
    exact ⟨x.1.declaration, f', hsig ▸ hc.firstDeclared_eq hrs hk rfl, hf', hmade.lasts hmade'⟩
  · intro i s hs
    obtain ⟨hsound, _, _⟩ := resolveDeclarations_spec Gathered.sound_empty hc.lossless hc.resolved
    obtain ⟨hsound', hkeeps, _⟩ := resolveDeclarations_spec hsound hc'.lossless hes
    have hbodies := hsound.shapes.bodies_prefix hsound'.shapes hkeeps
    obtain ⟨s', hs', hunnamed⟩ := structs_last stages stages' hbodies hs
    exact ⟨s', hs', StructDefinition.eq_of_unnamed hunnamed⟩

end Units

section Pier

/-- A berth as one parameter; nothing but an internal type suggests its name. -/
def berth (internalType : Option String) : Parameter where
  name := ""
  typeText := "tuple"
  internalType
  components := [{ name := "depth", typeText := "uint256" }, { name := "Depth", typeText := "bool" }]

def pier : List Declaration :=
  [{ kind := .function, name := some "dock", inputs := [berth none], mutability := .payable },
    { kind := .function, name := some "dock", inputs := [{ name := "id", typeText := "uint256" }]
      outputs := [berth none], mutability := .view }]

/-- A function with the method that is added to the first one, and an event that names the berth. -/
def pierLater : List Declaration :=
  [{ kind := .function, name := some "callDock" },
    { kind := .event, name := some "Docked", inputs := [berth (some "struct Berth")] }]

def pierBindings (ds : List Declaration) : Except Failure ContractBindings :=
  (compileDeclarations { callAndSend := true } "Pier" ⟨["harbour"]⟩ ds none).result

theorem pierBindings_ok : ∃ b, pierBindings pier = .ok b ∧
    (b.typeNames, b.methodNames) = (["Pier", "Struct0"],
      ["call_dock", "dock", "dock_with_uint256", "send_dock_with_uint256", "encode_dock",
        "encode_dock_with_uint256"]) :=
  ok_of_view (by decide +kernel)

/-- The struct gets its name late and an added method makes room, but nothing else moves. -/
theorem pierBindings_later_ok : ∃ b, pierBindings (pier ++ pierLater) = .ok b ∧
    (b.typeNames, b.methodNames) = (["Pier", "Berth", "DockedEvent"],
      ["call_dock_2", "dock", "dock_with_uint256", "send_dock_with_uint256", "call_call_dock",
        "call_dock", "docked_events", "encode_dock", "encode_dock_with_uint256",
        "encode_call_dock"]) :=
  ok_of_view (by decide +kernel)

theorem later_declarations_add_pier :
    ∃ b b', pierBindings pier = .ok b ∧ pierBindings (pier ++ pierLater) = .ok b' ∧
      (∀ (i : Nat) f, b.functions[i]? = some f → ∃ d f',
        firstDeclared pier .function f.signature = some d ∧ b'.functions[i]? = some f' ∧
          f.Lasts d.mutability f') ∧
      ∀ (i : Nat) s, b.structs[i]? = some s → ∃ s', b'.structs[i]? = some s' ∧
        s' = { s with name := s'.name } := by
  obtain ⟨b, hb, _⟩ := pierBindings_ok
  obtain ⟨b', hb', _⟩ := pierBindings_later_ok
  have hnew : ∀ e ∈ pierLater, e.kind = .function → ∀ d ∈ pier, d.kind = .function →
      e.nameOrKind ≠ d.nameOrKind := by decide
  exact ⟨b, b', hb, hb', later_declarations_add hb hb' hnew⟩

end Pier

end AbiBindings
