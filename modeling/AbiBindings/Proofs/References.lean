import AbiBindings.Proofs.Compilation
import AbiBindings.Render.Expression

namespace AbiBindings

def Wire.structIds : Wire → List StructId
  | .elementary _ => []
  | .array element _ => element.structIds
  | .tuple id => [id]

def Target.structIds : Target → List StructId
  | .vec element => element.structIds
  | .array element _ => element.structIds
  | .struct id => [id]
  | _ => []

def Resolved.structIds (r : Resolved) : List StructId := r.wire.structIds ++ r.target.structIds

section Resolution

variable {mode : Representation} {keys : List ShapeKey}

theorem Representation.structIds_target {e : Elementary} {target : Target}
    (h : mode.target e = some target) : target.structIds = [] := by
  cases e with
  | uint bits | int bits =>
    cases mode with
    | precise =>
      cases h
      rfl
    | native =>
      obtain ⟨n, _, rfl⟩ := Option.map_eq_some_iff.mp h
      rfl
  | _ =>
    cases h
    rfl

theorem Resolved.mem_structIds_arrayOf {r : Resolved} {n : Option Nat} {j : StructId} :
    j ∈ (r.arrayOf n).structIds ↔ j ∈ r.structIds := by
  cases n <;> simp [Resolved.structIds, Resolved.arrayOf, Wire.structIds, Target.structIds]

/-- A type only refers to shapes that were known when it was resolved. -/
theorem TypeTree.structIds_lt {r : Resolved} :
    (t : TypeTree) → t.resolve mode keys = some r → ∀ j ∈ r.structIds, j < keys.length
  | .elementary e, h, j, hj => by
    obtain ⟨target, ht, rfl⟩ := resolve_elementary.mp h
    simp [Resolved.structIds, Wire.structIds, Representation.structIds_target ht] at hj
  | .array t n, h, j, hj => by
    obtain ⟨element, he, rfl⟩ := resolve_array.mp h
    exact structIds_lt t he j (Resolved.mem_structIds_arrayOf.mp hj)
  | .tuple parts, h, j, hj => by
    obtain ⟨fields, id, _, hi, rfl⟩ := resolve_tuple.mp h
    have hid : id < keys.length := (List.getElem?_eq_some_iff.mp (key_of_idxOf? hi)).1
    have he : j = id := by simpa [Resolved.structIds, Wire.structIds, Target.structIds] using hj
    exact he ▸ hid

/-- Resolved parts refer to shapes that are known. -/
theorem TypeTree.parts_structIds_lt {parts : List (String × TypeTree)}
    {fields : List (String × Resolved)} (h : resolveParts mode keys parts = some fields) :
    ∀ f ∈ fields, ∀ j ∈ f.2.structIds, j < keys.length := by
  induction parts generalizing fields with
  | nil =>
    cases h
    simp
  | cons part parts ih =>
    obtain ⟨r, rest, hr, hp, rfl⟩ := resolveParts_cons.mp h
    intro f hf
    rcases List.mem_cons.mp hf with rfl | hf
    · exact structIds_lt _ hr
    · exact ih hp f hf

theorem Settled.structIds_lt {ps : List Parameter} {types : List Resolved}
    (h : Settled mode keys ps types) : ∀ t ∈ types, ∀ j ∈ t.structIds, j < keys.length := by
  obtain ⟨parts, _, hf⟩ := h.resolved
  intro t ht
  rw [← h.zip_types] at ht
  obtain ⟨f, hmem, rfl⟩ := List.mem_map.mp ht
  exact TypeTree.parts_structIds_lt hf f hmem

end Resolution

/-- What a log keeps of a value refers to nothing that the value does not refer to. -/
theorem structIds_loggedType {p : Parameter} {type : Resolved} {j : StructId}
    (h : j ∈ (loggedType p type).structIds) : j ∈ type.structIds := by
  simp only [loggedType] at h
  split at h
  · simp [Resolved.topicHash, Resolved.structIds, Wire.structIds, Target.structIds] at h
  · exact h

namespace ContractBindings

def memberTypes (b : ContractBindings) : List Resolved :=
  b.functions.flatMap (fun f => (f.inputs ++ f.outputs).map (·.type)) ++
    b.events.flatMap (fun e => e.fields.map (·.type)) ++
    b.errors.flatMap (fun e => e.fields.map (·.type)) ++
    b.deploy.toList.flatMap fun d => d.inputs.map (·.type)

def fieldTypes (b : ContractBindings) : List Resolved :=
  b.structs.flatMap fun d => d.fields.map (·.type)

/-- One struct refers to another in the type of a field. -/
def RefersTo (b : ContractBindings) (i j : StructId) : Prop :=
  ∃ d, b.structs[i]? = some d ∧ ∃ f ∈ d.fields, j ∈ f.type.structIds

namespace Compiled

variable {b : ContractBindings} {mode : Representation} {ds : List Declaration}
variable {bytecode : Option String} {rs : List ResolvedDeclaration} {g : Gathered}

theorem struct_id (h : b.Compiled mode ds bytecode rs g) {i : StructId} {d : StructDefinition}
    (hd : b.structs[i]? = some d) : d.id = i := by
  have hi := congrArg (·[i]?) h.built.ids
  obtain ⟨hlt, rfl⟩ := List.getElem?_eq_some_iff.mp hd
  simpa [hlt] using hi

/-- The fields of a struct resolve among the structs before it. -/
theorem struct_fields (h : b.Compiled mode ds bytecode rs g) {i : StructId} {d : StructDefinition}
    (hd : b.structs[i]? = some d) :
    (∃ parts, TypeTree.resolveParts mode ((structKeys b.structs).take i) parts = some d.body.1) ∧
      d.isDynamic = d.body.1.any fun f => f.2.isDynamic := by
  have hb := congrArg (·[i]?) h.built.bodies
  simp only [List.getElem?_map, hd, Option.map_some] at hb
  obtain ⟨s, hs, hbody⟩ := Option.map_eq_some_iff.mp hb.symm
  have hg := (resolveDeclarations_spec Gathered.sound_empty h.lossless h.resolved).1.shapes
  obtain ⟨hp, hdyn⟩ := hg i s hs
  simp only [Shape.body, StructDefinition.body, Prod.mk.injEq] at hbody
  rw [h.structKeys_eq, StructDefinition.body, ← hbody.1, ← hbody.2]
  exact ⟨hp, hdyn⟩

/-- A struct refers to earlier structs only. -/
theorem refersTo_lt (h : b.Compiled mode ds bytecode rs g) {i j : StructId}
    (hr : b.RefersTo i j) : j < i := by
  obtain ⟨d, hd, f, hf, hj⟩ := hr
  obtain ⟨⟨parts, hp⟩, _⟩ := h.struct_fields hd
  have hmem : (f.abiName, f.type) ∈ d.body.1 := List.mem_map_of_mem hf
  have hlt := TypeTree.parts_structIds_lt hp _ hmem j hj
  exact Nat.lt_of_lt_of_le hlt (List.length_take_le ..)

/-- What is declared refers to structs that there are. -/
theorem structIds_lt (h : b.Compiled mode ds bytecode rs g) {r : ResolvedDeclaration}
    (hr : r ∈ rs) {t : Resolved} (ht : t ∈ r.inputs ∨ t ∈ r.outputs) {j : StructId}
    (hj : j ∈ t.structIds) : j < b.structs.length := by
  have hlen : (structKeys b.structs).length = b.structs.length := List.length_map _
  rw [← hlen]
  rcases ht with ht | ht
  · exact (h.sound r hr).inputs.structIds_lt t ht j hj
  · exact (h.sound r hr).outputs.structIds_lt t ht j hj

/-- Every member has a type that was declared, or what a log keeps of one. -/
theorem memberTypes_lt (h : b.Compiled mode ds bytecode rs g) {t : Resolved}
    (ht : t ∈ b.memberTypes) {j : StructId} (hj : j ∈ t.structIds) : j < b.structs.length := by
  simp only [memberTypes, List.mem_append, List.mem_flatMap] at ht
  rcases ht with ((⟨f, hf, ht⟩ | ⟨e, he, ht⟩) | ⟨e, he, ht⟩) | ⟨helper, hd, ht⟩
  · obtain ⟨r, hr, _, hb⟩ := h.function hf
    rw [List.map_append, hb.inputs, hb.outputs] at ht
    exact h.structIds_lt hr (List.mem_append.mp ht) hj
  · obtain ⟨r, hr, _, hb⟩ := h.event he
    rw [hb.fields] at ht
    obtain ⟨x, hx, rfl⟩ := List.mem_map.mp ht
    exact h.structIds_lt hr (.inl (List.of_mem_zip hx).2) (structIds_loggedType hj)
  · obtain ⟨r, hr, _, hb⟩ := h.error he
    rw [hb.fields] at ht
    exact h.structIds_lt hr (.inl ht) hj
  · rcases h.deploy (Option.mem_toList.mp hd) with ⟨_, _, hi⟩ | ⟨r, hr, _, hb⟩
    · simp [hi] at ht
    · rw [hb.inputs] at ht
      exact h.structIds_lt hr (.inl ht) hj

theorem fieldTypes_lt (h : b.Compiled mode ds bytecode rs g) {t : Resolved}
    (ht : t ∈ b.fieldTypes) {j : StructId} (hj : j ∈ t.structIds) : j < b.structs.length := by
  simp only [fieldTypes, List.mem_flatMap, List.mem_map] at ht
  obtain ⟨d, hd, f, hf, rfl⟩ := ht
  obtain ⟨i, hi⟩ := List.mem_iff_getElem?.mp hd
  obtain ⟨hlt, _⟩ := List.getElem?_eq_some_iff.mp hi
  exact Nat.lt_trans (h.refersTo_lt ⟨d, hi, f, hf, hj⟩) hlt

/-- Every place is found, under the name of its struct. -/
theorem struct_found (h : b.Compiled mode ds bytecode rs g) {j : StructId}
    (hj : j < b.structs.length) :
    ∃ d ∈ b.structs, d.id = j ∧ b.structDef? j = some d ∧ Render.structName b j = d.name := by
  have hd : b.structs[j]? = some b.structs[j] := List.getElem?_eq_getElem hj
  have hid := h.struct_id hd
  have hfound : b.structDef? j = some b.structs[j] := by
    simp only [structDef?, hd, Option.filter_some, hid, decide_true, ↓reduceIte]
  exact ⟨_, List.getElem_mem hj, hid, hfound, by rw [Render.structName, hfound]⟩

end Compiled

end ContractBindings

namespace Render

variable {names names' : StructNames}

/-- The text of a type depends only on the names of the structs it refers to. -/
theorem typeName_congr {t : Target} (h : ∀ j ∈ t.structIds, names j = names' j) :
    typeName names t = typeName names' t := by
  induction t with
  | vec element ih => exact congrArg ("Vec<" ++ · ++ ">") (ih h)
  | array element length ih => exact congrArg ("[" ++ · ++ "; " ++ toString length ++ "]") (ih h)
  | struct id => exact h id (List.mem_singleton_self id)
  | _ => rfl

theorem paramType_congr {w : Wire} (h : ∀ j ∈ w.structIds, names j = names' j) :
    paramType names w = paramType names' w := by
  induction w with
  | elementary e => rfl
  | array element length ih =>
    cases length with
    | none => exact congrArg ("ParamType::Array(Box::new(" ++ · ++ "))") (ih h)
    | some n =>
      exact congrArg ("ParamType::FixedArray(Box::new(" ++ · ++ "), " ++ toString n ++ ")") (ih h)
  | tuple id => exact congrArg (· ++ "::param_type()") (h id (List.mem_singleton_self id))

end Render

/-- References between structs and from members to structs: an id is a place, structs refer to
earlier ones only, and nothing refers to a struct that there is not. So every reference is found
under its struct's name, the text of a type never depends on what an unknown id would be called, and
following references comes to an end. -/
theorem struct_references {options : Options} {contractName : String} {modulePath : ModulePath}
    {ds : List Declaration} {bytecode : Option String} {b : ContractBindings}
    (h : (compileDeclarations options contractName modulePath ds bytecode).result = .ok b) :
    (∀ (i : StructId) (d : StructDefinition), b.structs[i]? = some d →
      d.id = i ∧ ∀ f ∈ d.fields, ∀ j ∈ f.type.structIds, j < i) ∧
    (∀ t ∈ b.memberTypes, ∀ j ∈ t.structIds, j < b.structs.length) ∧
    (∀ t ∈ b.fieldTypes ++ b.memberTypes,
      (∀ j ∈ t.structIds, ∃ d, b.structDef? j = some d ∧ Render.structName b j = d.name) ∧
      ∀ names : Render.StructNames, (∀ d ∈ b.structs, names d.id = d.name) →
        Render.typeName (Render.structName b) t.target = Render.typeName names t.target ∧
        Render.paramType (Render.structName b) t.wire = Render.paramType names t.wire) ∧
    WellFounded fun j i => b.RefersTo i j := by
  obtain ⟨rs, g, hc⟩ := compileDeclarations_ok h
  refine ⟨?_, ?_, ?_, ?_⟩
  · intro i d hd
    exact ⟨hc.struct_id hd, fun f hf j hj => hc.refersTo_lt ⟨d, hd, f, hf, hj⟩⟩
  · intro t ht j hj
    exact hc.memberTypes_lt ht hj
  · intro t ht
    have hlt : ∀ j ∈ t.structIds, j < b.structs.length := by
      intro j hj
      rcases List.mem_append.mp ht with ht | ht
      · exact hc.fieldTypes_lt ht hj
      · exact hc.memberTypes_lt ht hj
    refine ⟨?_, ?_⟩
    · intro j hj
      obtain ⟨d, _, _, hd⟩ := hc.struct_found (hlt j hj)
      exact ⟨d, hd⟩
    · intro names hnames
      have heq : ∀ j ∈ t.structIds, Render.structName b j = names j := by
        intro j hj
        obtain ⟨d, hmem, hid, _, hname⟩ := hc.struct_found (hlt j hj)
        rw [hname, ← hnames d hmem, hid]
      exact ⟨Render.typeName_congr fun j hj => heq j (List.mem_append_right _ hj),
        Render.paramType_congr fun j hj => heq j (List.mem_append_left _ hj)⟩
  · exact Subrelation.wf (fun hr => hc.refersTo_lt hr) Nat.lt_wfRel.wf

/-- Bundles refer to orders. -/
theorem struct_references_exchange : ∃ b, exchangeBindings = .ok b ∧ b.structs.length = 2 ∧
    (∀ t ∈ b.memberTypes, ∀ j ∈ t.structIds, j < 2) ∧ WellFounded fun j i => b.RefersTo i j := by
  obtain ⟨b, hb, hview⟩ := exchangeBindings_ok
  have hlen : b.structs.length = 2 := congrArg (·.2.2.2) hview
  obtain ⟨_, hmembers, _, hwf⟩ := struct_references hb
  exact ⟨b, hb, hlen, hlen ▸ hmembers, hwf⟩

end AbiBindings
