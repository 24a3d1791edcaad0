import AbiBindings.Proofs.Compilation

namespace AbiBindings

/-- Among owners of distinct names, a search for a name ends at its owner. -/
theorem find_owner {α : Type} (names : α → List String) {p : α → Bool} {xs : List α} {x : α}
    {name : String} (hp : ∀ y, p y = true ↔ name ∈ names y) (hn : (xs.flatMap names).Nodup)
    (hx : x ∈ xs) (hm : name ∈ names x) : xs.find? p = some x := by
  induction xs with
  | nil => cases hx
  | cons y xs ih =>
    rw [List.flatMap_cons, List.nodup_append] at hn
    obtain ⟨_, hrest, hdisjoint⟩ := hn
    rcases List.mem_cons.mp hx with rfl | hx
    · exact List.find?_cons_of_pos ((hp x).mpr hm)
    · have hy : ¬ p y = true := by
        intro hpy
        exact hdisjoint name ((hp y).mp hpy) name (List.mem_flatMap.mpr ⟨x, hx, hm⟩) rfl
      rw [List.find?_cons_of_neg hy]
      exact ih hrest hx

namespace ContractBindings.Compiled

variable {b : ContractBindings} {mode : Representation} {ds : List Declaration}
variable {bytecode : Option String} {rs : List ResolvedDeclaration} {g : Gathered}

theorem nodup_typeNames (h : b.Compiled mode ds bytecode rs g) :
    b.typeNames.Nodup ∧ ∀ n ∈ b.typeNames, n ∉ reservedTypeNames := by
  obtain ⟨scope, hg⟩ := h.built.typeNames
  exact ⟨hg.nodup, hg.fresh⟩

theorem nodup_methodNames (h : b.Compiled mode ds bytecode rs g) :
    b.methodNames.Nodup ∧ ∀ n ∈ b.methodNames, n ∉ reservedMethodNames := by
  obtain ⟨scope, hg⟩ := h.built.methodNames
  exact ⟨hg.nodup, hg.fresh⟩

/-- A method leads to the function that has it. -/
theorem function?_eq (h : b.Compiled mode ds bytecode rs g) {f : FunctionBinding}
    (hf : f ∈ b.functions) {method : String} (hm : method ∈ f.methodNames) :
    b.function? method = some f := by
  refine find_owner FunctionBinding.methodNames ?_ ?_ hf hm
  · simp
  · exact (List.nodup_append.mp h.nodup_methodNames.1).1

theorem structByName?_eq (h : b.Compiled mode ds bytecode rs g) {d : StructDefinition}
    (hd : d ∈ b.structs) : b.structByName? d.name = some d := by
  refine find_owner (fun d => [d.name]) ?_ ?_ hd (List.mem_singleton_self _)
  · simp [eq_comm]
  · have hn := (List.nodup_append.mp (List.nodup_cons.mp h.nodup_typeNames.1).2).1
    rwa [List.map_eq_flatMap] at hn

end ContractBindings.Compiled

/-- Names in one scope of the generated module never clash, whatever strings they come from: types,
methods and encoders, the arguments and results of each method, and the fields of each record. None
is reserved. So a method name finds the function that owns it, and a struct name its struct. -/
theorem names_distinct {options : Options} {contractName : String} {modulePath : ModulePath}
    {ds : List Declaration} {bytecode : Option String} {b : ContractBindings}
    (h : (compileDeclarations options contractName modulePath ds bytecode).result = .ok b) :
    (b.typeNames.Nodup ∧ ∀ n ∈ b.typeNames, n ∉ reservedTypeNames) ∧
    (b.methodNames.Nodup ∧ ∀ n ∈ b.methodNames, n ∉ reservedMethodNames) ∧
    (∀ f ∈ b.functions, (f.inputs.map (·.name) ++ f.valueParam.toList).Nodup ∧
      (f.outputs.map (·.name)).Nodup) ∧
    (∀ d, b.deploy = some d →
      (d.inputs.map (·.name) ++ d.providerParam :: d.valueParam.toList).Nodup) ∧
    (∀ d ∈ b.structs, (d.fields.map (·.name)).Nodup) ∧
    (∀ e ∈ b.events, (e.fields.map (·.name)).Nodup) ∧
    (∀ e ∈ b.errors, (e.fields.map (·.name)).Nodup) ∧
    (∀ f ∈ b.functions, ∀ m ∈ f.methodNames, b.function? m = some f) ∧
    ∀ d ∈ b.structs, b.structByName? d.name = some d := by
  obtain ⟨rs, g, hc⟩ := compileDeclarations_ok h
  refine ⟨hc.nodup_typeNames, hc.nodup_methodNames, ?_, ?_, hc.built.structFields, ?_, ?_, ?_, ?_⟩
  · intro f hf
    obtain ⟨r, _, _, hb⟩ := hc.function hf
    exact ⟨hb.inputNames, hb.outputNames⟩
  · intro d hd
    exact hc.deployNames hd
  · intro e he
    obtain ⟨r, _, _, hb⟩ := hc.event he
    exact hb.fieldNames
  · intro e he
    obtain ⟨r, _, _, hb⟩ := hc.error he
    exact hb.fieldNames
  · intro f hf m hm
    exact hc.function?_eq hf hm
  · intro d hd
    exact hc.structByName?_eq hd

/-- One shape is called like the contract, and gives way. -/
theorem names_distinct_exchange : ∃ b, exchangeBindings = .ok b ∧
    b.typeNames = ["Exchange", "Order", "Exchange2", "OrderEvent", "RejectedError"] ∧
    b.typeNames.Nodup ∧ ∀ d ∈ b.structs, b.structByName? d.name = some d := by
  obtain ⟨b, hb, hview⟩ := exchangeBindings_ok
  obtain ⟨⟨htypes, _⟩, _, _, _, _, _, _, _, hstructs⟩ := names_distinct hb
  exact ⟨b, hb, congrArg (·.2.1) hview, htypes, hstructs⟩

end AbiBindings
