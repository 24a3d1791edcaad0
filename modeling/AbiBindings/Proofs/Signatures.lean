import AbiBindings.Proofs.Compilation

namespace AbiBindings

mutual

/-- How a resolved type is spelled when the structs stand for their fields. -/
inductive Spelled (structs : List StructDefinition) : Wire → String → Prop
  | elementary (e : Elementary) : Spelled structs (.elementary e) e.text
  | array {element : Wire} {text : String} (length : Option Nat)
    (h : Spelled structs element text) :
    Spelled structs (.array element length) (text ++ TypeExpr.dimText length)
  | tuple {id : StructId} {d : StructDefinition} {texts : List String} (hd : structs[id]? = some d)
    (h : SpelledAll structs (d.fields.map (·.type.wire)) texts) :
    Spelled structs (.tuple id) ("(" ++ ",".intercalate texts ++ ")")

inductive SpelledAll (structs : List StructDefinition) : List Wire → List String → Prop
  | nil : SpelledAll structs [] []
  | cons {wire : Wire} {text : String} {wires : List Wire} {texts : List String}
    (h : Spelled structs wire text) (hs : SpelledAll structs wires texts) :
    SpelledAll structs (wire :: wires) (text :: texts)

end

section Spelling

variable {structs : List StructDefinition}

mutual

/-- A type has at most one spelling. -/
theorem Spelled.unique {wire : Wire} {text text' : String} :
    Spelled structs wire text → Spelled structs wire text' → text = text'
  | .elementary e, h' => by
    cases h'
    rfl
  | .array length h, h' => by
    cases h' with
    | array _ h' => rw [h.unique h']
  | .tuple hd h, h' => by
    cases h' with
    | tuple hd' h' =>
      obtain rfl := Option.some.inj (hd.symm.trans hd')
      rw [h.unique h']

/-- Types have one spelling, given the structs. -/
theorem SpelledAll.unique {wires : List Wire} {texts texts' : List String} :
    SpelledAll structs wires texts → SpelledAll structs wires texts' → texts = texts'
  | .nil, h' => by
    cases h'
    rfl
  | .cons h hs, h' => by
    cases h' with
    | cons h' hs' => rw [h.unique h', hs.unique hs']

end

variable {mode : Representation}

mutual

/-- What a type resolves to is spelled as the type is, tuples found through the structs included. -/
theorem spelled_of_resolve {r : Resolved} :
    (t : TypeTree) → t.resolve mode (structKeys structs) = some r →
      Spelled structs r.wire t.text
  | .elementary e, h => by
    obtain ⟨target, _, rfl⟩ := TypeTree.resolve_elementary.mp h
    exact .elementary e
  | .array t n, h => by
    obtain ⟨element, he, rfl⟩ := TypeTree.resolve_array.mp h
    exact .array n (spelled_of_resolve t he)
  | .tuple parts, h => by
    obtain ⟨fields, id, hf, hi, rfl⟩ := TypeTree.resolve_tuple.mp h
    obtain ⟨d, hd, hk⟩ := struct_of_key (TypeTree.key_of_idxOf? hi)
    refine .tuple hd ?_
    rw [d.wires_of_key hk]
    exact spelled_of_resolveParts parts hf

/-- Resolved parts are spelled as their trees are. -/
theorem spelled_of_resolveParts {fields : List (String × Resolved)} :
    (parts : List (String × TypeTree)) →
      TypeTree.resolveParts mode (structKeys structs) parts = some fields →
      SpelledAll structs (fields.map (·.2.wire)) (TypeTree.texts parts)
  | [], h => by
    cases h
    exact .nil
  | (name, t) :: parts, h => by
    obtain ⟨r, rest, hr, hp, rfl⟩ := TypeTree.resolveParts_cons.mp h
    exact .cons (spelled_of_resolve t hr) (spelled_of_resolveParts parts hp)

end

end Spelling

def ContractBindings.Spells (b : ContractBindings) (name : String) (types : List Resolved)
    (sig : String) : Prop :=
  ∃ texts, SpelledAll b.structs (types.map (·.wire)) texts ∧
    sig = name ++ "(" ++ ",".intercalate texts ++ ")"

theorem ContractBindings.Spells.unique {b : ContractBindings} {name sig sig' : String}
    {types : List Resolved} (h : b.Spells name types sig) (h' : b.Spells name types sig') :
    sig = sig' := by
  obtain ⟨texts, ht, rfl⟩ := h
  obtain ⟨texts', ht', rfl⟩ := h'
  rw [ht.unique ht']

/-- The signature of a declaration is the one its resolved inputs spell. -/
theorem ResolvedDeclaration.Sound.spells {b : ContractBindings} {mode : Representation}
    {r : ResolvedDeclaration} (h : r.Sound mode (structKeys b.structs)) (sig : String) :
    b.Spells r.declaration.nameOrKind r.inputs sig ↔ sig = r.signature := by
  obtain ⟨parts, hp, hf⟩ := h.inputs.resolved
  obtain ⟨parts', hp', hs⟩ := signature_ok h.signature
  obtain rfl := Option.some.inj (hp.symm.trans hp')
  have hw : ((r.declaration.inputs.map (·.name)).zip r.inputs).map (·.2.wire) =
      r.inputs.map (·.wire) := map_of_map h.inputs.zip_types (·.wire)
  have hspelled : b.Spells r.declaration.nameOrKind r.inputs r.signature :=
    ⟨_, hw ▸ spelled_of_resolveParts parts hf, hs⟩
  constructor
  · intro hsig
    exact hsig.unique hspelled
  · rintro rfl
    exact hspelled

/-- What is hashed and what is encoded describe the same call: the resolved types of a function's
inputs or an error's fields, and of a constructor's, spell the signature and nothing else, and the
selector is made from it. -/
theorem signatures_spelled {options : Options} {contractName : String} {modulePath : ModulePath}
    {ds : List Declaration} {bytecode : Option String} {b : ContractBindings}
    (h : (compileDeclarations options contractName modulePath ds bytecode).result = .ok b) :
    (∀ f ∈ b.functions, f.selector = (Keccak.hashText f.signature).take 4 ∧
      ∀ sig, b.Spells f.abiName (f.inputs.map (·.type)) sig ↔ sig = f.signature) ∧
    (∀ e ∈ b.errors, e.selector = (Keccak.hashText e.signature).take 4 ∧
      ∀ sig, b.Spells e.abiName (e.fields.map (·.type)) sig ↔ sig = e.signature) ∧
    ∀ helper, b.deploy = some helper → ∀ d, (ds.find? fun d => d.kind = .constructor) = some d →
      ∃ text, helper.signature = some text ∧
        ∀ sig, b.Spells d.nameOrKind (helper.inputs.map (·.type)) sig ↔ sig = text := by
  obtain ⟨rs, g, hc⟩ := compileDeclarations_ok h
  refine ⟨?_, ?_, ?_⟩
  · intro f hf
    obtain ⟨r, hr, _, hb⟩ := hc.function hf
    rw [hb.abiName, hb.inputs, hb.signature]
    exact ⟨hb.selector, (hc.sound r hr).spells⟩
  · intro e he
    obtain ⟨r, hr, _, hb⟩ := hc.error he
    rw [hb.abiName, hb.fields, hb.signature]
    exact ⟨hb.selector, (hc.sound r hr).spells⟩
  · intro helper hd d hfirst
    rcases hc.deploy hd with ⟨hnone, _⟩ | ⟨r, hr, hsome, hb⟩
    · rw [hfirst] at hnone
      cases hnone
    · obtain rfl := Option.some.inj (hfirst.symm.trans hsome)
      rw [hb.inputs]
      exact ⟨r.signature, hb.signature, (hc.sound r hr).spells⟩

/-- The overload that takes a bundle of orders. -/
theorem signatures_spelled_exchange : ∃ b, exchangeBindings = .ok b ∧ ∃ f ∈ b.functions,
    b.Spells f.abiName (f.inputs.map (·.type)) "submit(((address,uint256[2])[3],uint256))" := by
  obtain ⟨b, hb, hview⟩ := exchangeBindings_ok
  have hsigs : b.functions.map (·.signature) = [_, _] := congrArg (·.1) hview
  have hm : "submit(((address,uint256[2])[3],uint256))" ∈ b.functions.map (·.signature) := by
    rw [hsigs]
    exact List.mem_cons_of_mem _ (List.mem_singleton_self _)
  obtain ⟨f, hf, hs⟩ := List.mem_map.mp hm
  exact ⟨b, hb, f, hf, (((signatures_spelled hb).1 f hf).2 _).mpr hs.symm⟩

end AbiBindings
