import AbiBindings.Proofs.KeptDeclarations
import AbiBindings.Proofs.References

namespace AbiBindings

/-- A primitive that holds the width, and no smaller one does. -/
structure NativeInt.Narrowest (n : NativeInt) (bits : Nat) : Prop where
  holds : bits ≤ n.size.bits
  least : ∀ s : NativeSize, bits ≤ s.bits → n.size.bits ≤ s.bits

/-- Which type of the generated code stands for which type on the wire. -/
inductive Fits (mode : Representation) : Wire → Target → Prop
  | bool : Fits mode (.elementary .bool) .bool
  | address : Fits mode (.elementary .address) .address
  | fixedBytes (size : Nat) : Fits mode (.elementary (.fixedBytes size)) (.fixedBytes size)
  | bytes : Fits mode (.elementary .bytes) .bytes
  | string : Fits mode (.elementary .string) .string
  | wideUint (bits : Nat) (h : mode = .precise) : Fits mode (.elementary (.uint bits)) .wideUint
  | wideInt (bits : Nat) (h : mode = .precise) : Fits mode (.elementary (.int bits)) .wideInt
  | nativeUint {bits : Nat} {n : NativeInt} (h : mode = .native) (hs : n.signed = false)
    (hn : n.Narrowest bits) : Fits mode (.elementary (.uint bits)) (.native n)
  | nativeInt {bits : Nat} {n : NativeInt} (h : mode = .native) (hs : n.signed = true)
    (hn : n.Narrowest bits) : Fits mode (.elementary (.int bits)) (.native n)
  | vec {wire : Wire} {target : Target} (h : Fits mode wire target) :
    Fits mode (.array wire none) (.vec target)
  | array {wire : Wire} {target : Target} (length : Nat) (h : Fits mode wire target) :
    Fits mode (.array wire (some length)) (.array target length)
  | struct (id : StructId) : Fits mode (.tuple id) (.struct id)

/-- The types whose values have no fixed encoded size. A tuple is one when some field of its struct
is. -/
inductive Wire.Dynamic (structs : List StructDefinition) : Wire → Prop
  | bytes : Dynamic structs (.elementary .bytes)
  | string : Dynamic structs (.elementary .string)
  | vec (element : Wire) : Dynamic structs (.array element none)
  | array {element : Wire} (length : Nat) (h : Dynamic structs element) :
    Dynamic structs (.array element (some length))
  | tuple {id : StructId} {d : StructDefinition} {f : StructField} (hd : structs[id]? = some d)
    (hf : f ∈ d.fields) (h : Dynamic structs f.type.wire) : Dynamic structs (.tuple id)

/-- The three parts of a resolved type agree. -/
structure Resolved.Coherent (mode : Representation) (structs : List StructDefinition)
    (r : Resolved) : Prop where
  fits : Fits mode r.wire r.target
  dynamic : r.isDynamic = true ↔ r.wire.Dynamic structs

/-- Of an indexed value of such a type, the log only has a hash. -/
inductive Wire.LeavesHash : Wire → Prop
  | bytes : LeavesHash (.elementary .bytes)
  | string : LeavesHash (.elementary .string)
  | array (element : Wire) (length : Option Nat) : LeavesHash (.array element length)
  | tuple (id : StructId) : LeavesHash (.tuple id)

theorem Wire.isHashedInTopic_iff {w : Wire} : w.isHashedInTopic = true ↔ w.LeavesHash := by
  constructor
  · intro h
    cases w with
    | elementary e =>
      cases e with
      | bytes => exact .bytes
      | string => exact .string
      | _ => cases h
    | array element length => exact .array element length
    | tuple id => exact .tuple id
  · intro h
    cases h <;> rfl

section Elementary

variable {mode : Representation} {structs : List StructDefinition}

theorem NativeInt.forWidth_narrowest {bits : Nat} {signed : Bool} {n : NativeInt}
    (h : NativeInt.forWidth bits signed = some n) : n.signed = signed ∧ n.Narrowest bits := by
  unfold forWidth at h
  -- Each test that failed says that the next smaller size is too small.
  repeat' split at h
  all_goals cases h
  all_goals refine ⟨rfl, ?_, ?_⟩
  all_goals try (simp only [NativeSize.bits]; omega)
  all_goals
    intro s hs
    cases s <;> simp only [NativeSize.bits] at hs ⊢ <;> omega

theorem Representation.fits_target {e : Elementary} {target : Target}
    (h : mode.target e = some target) : Fits mode (.elementary e) target := by
  cases e with
  | uint bits =>
    cases mode with
    | precise =>
      cases h
      exact .wideUint bits rfl
    | native =>
      obtain ⟨n, hn, rfl⟩ := Option.map_eq_some_iff.mp h
      obtain ⟨hs, hw⟩ := NativeInt.forWidth_narrowest hn
      exact .nativeUint rfl hs hw
  | int bits =>
    cases mode with
    | precise =>
      cases h
      exact .wideInt bits rfl
    | native =>
      obtain ⟨n, hn, rfl⟩ := Option.map_eq_some_iff.mp h
      obtain ⟨hs, hw⟩ := NativeInt.forWidth_narrowest hn
      exact .nativeInt rfl hs hw
  | address =>
    cases h
    exact .address
  | bool =>
    cases h
    exact .bool
  | fixedBytes size =>
    cases h
    exact .fixedBytes size
  | bytes =>
    cases h
    exact .bytes
  | string =>
    cases h
    exact .string

theorem Elementary.isDynamic_iff {e : Elementary} :
    e.isDynamic = true ↔ (Wire.elementary e).Dynamic structs := by
  constructor
  · intro h
    cases e with
    | bytes => exact .bytes
    | string => exact .string
    | _ => cases h
  · intro h
    cases h <;> rfl

theorem Resolved.Coherent.arrayOf {r : Resolved} (h : r.Coherent mode structs)
    (length : Option Nat) : (r.arrayOf length).Coherent mode structs := by
  cases length with
  | none => exact ⟨.vec h.fits, fun _ => .vec r.wire, fun _ => rfl⟩
  | some n =>
    refine ⟨.array n h.fits, ?_, ?_⟩
    · intro hd
      exact .array n (h.dynamic.mp hd)
    · intro hd
      cases hd with
      | array _ hd => exact h.dynamic.mpr hd

/-- A hash of a value is not the value. -/
theorem Resolved.Coherent.ne_topicHash {r : Resolved} (h : r.Coherent mode structs) :
    r ≠ .topicHash := by
  rintro rfl
  cases h.fits

end Elementary

section Trees

variable {mode : Representation} {structs : List StructDefinition}

/-- Some field is dynamic just when some field of the struct with the same key is. -/
theorem dynamic_of_key {d : StructDefinition} {fields : List (String × Resolved)}
    (hk : d.key = shapeKey fields) (hf : ∀ f ∈ fields, f.2.Coherent mode structs) :
    (fields.any fun f => f.2.isDynamic) = true ↔
      ∃ f ∈ d.fields, f.type.wire.Dynamic structs := by
  have hw := d.wires_of_key hk
  rw [List.any_eq_true]
  constructor
  · rintro ⟨f, hm, hd⟩
    have hmem : f.2.wire ∈ d.fields.map (·.type.wire) := hw ▸ List.mem_map_of_mem hm
    obtain ⟨f', hf', he⟩ := List.mem_map.mp hmem
    exact ⟨f', hf', he ▸ (hf f hm).dynamic.mp hd⟩
  · rintro ⟨f', hm, hd⟩
    have hmem : f'.type.wire ∈ fields.map (·.2.wire) := hw ▸ List.mem_map_of_mem hm
    obtain ⟨f, hf', he⟩ := List.mem_map.mp hmem
    exact ⟨f, hf', (hf f hf').dynamic.mpr (he ▸ hd)⟩

mutual

/-- What a type resolves to is coherent, the tuples in it through the structs of their keys. -/
theorem coherent_of_resolve {r : Resolved} :
    (t : TypeTree) → t.resolve mode (structKeys structs) = some r → r.Coherent mode structs
  | .elementary e, h => by
    obtain ⟨target, ht, rfl⟩ := TypeTree.resolve_elementary.mp h
    exact ⟨Representation.fits_target ht, Elementary.isDynamic_iff⟩
  | .array t n, h => by
    obtain ⟨element, he, rfl⟩ := TypeTree.resolve_array.mp h
    exact (coherent_of_resolve t he).arrayOf n
  | .tuple parts, h => by
    obtain ⟨fields, id, hf, hi, rfl⟩ := TypeTree.resolve_tuple.mp h
    obtain ⟨d, hd, hk⟩ := struct_of_key (TypeTree.key_of_idxOf? hi)
    have hfields := dynamic_of_key hk (coherent_of_resolveParts parts hf)
    refine ⟨.struct id, hfields.trans ?_⟩
    constructor
    · rintro ⟨f, hm, hdyn⟩
      exact .tuple hd hm hdyn
    · intro hdyn
      cases hdyn with
      | tuple hd' hm hdyn =>
        cases hd.symm.trans hd'
        exact ⟨_, hm, hdyn⟩

/-- Every part of a tuple agrees with itself, by the tree it was resolved from. -/
theorem coherent_of_resolveParts {fields : List (String × Resolved)} :
    (parts : List (String × TypeTree)) →
      TypeTree.resolveParts mode (structKeys structs) parts = some fields →
      ∀ f ∈ fields, f.2.Coherent mode structs
  | [], h => by
    cases h
    simp
  | (name, t) :: parts, h => by
    obtain ⟨r, rest, hr, hp, rfl⟩ := TypeTree.resolveParts_cons.mp h
    intro f hf
    rcases List.mem_cons.mp hf with rfl | hf
    · exact coherent_of_resolve t hr
    · exact coherent_of_resolveParts parts hp f hf

end

theorem Settled.coherent {ps : List Parameter} {types : List Resolved}
    (h : Settled mode (structKeys structs) ps types) : ∀ t ∈ types, t.Coherent mode structs := by
  obtain ⟨parts, _, hf⟩ := h.resolved
  intro t ht
  rw [← h.zip_types] at ht
  obtain ⟨f, hmem, rfl⟩ := List.mem_map.mp ht
  exact coherent_of_resolveParts parts hf f hmem

end Trees

/-- A log has only a hash of just the indexed values whose type leaves one. -/
theorem loggedType_eq_topicHash_iff {p : Parameter} {t : Resolved} (h : t ≠ .topicHash) :
    loggedType p t = .topicHash ↔ p.indexed = true ∧ t.wire.LeavesHash := by
  rw [← Wire.isHashedInTopic_iff, loggedType]
  split
  · rename_i hc
    exact ⟨fun _ => hc, fun _ => rfl⟩
  · rename_i hc
    exact ⟨fun he => absurd he h, fun hc' => absurd hc' hc⟩

theorem loggedType_cases (p : Parameter) (t : Resolved) :
    loggedType p t = .topicHash ∨ loggedType p t = t := by
  unfold loggedType
  split
  · exact .inl rfl
  · exact .inr rfl

namespace ContractBindings

def valueTypes (b : ContractBindings) : List Resolved :=
  b.fieldTypes ++ b.functions.flatMap (fun f => (f.inputs ++ f.outputs).map (·.type)) ++
    b.errors.flatMap (fun e => e.fields.map (·.type)) ++
    b.deploy.toList.flatMap fun d => d.inputs.map (·.type)

theorem mem_of_valueTypes {b : ContractBindings} {t : Resolved} (h : t ∈ b.valueTypes) :
    t ∈ b.fieldTypes ++ b.memberTypes := by
  simp only [valueTypes, memberTypes, List.mem_append] at h ⊢
  tauto

namespace Compiled

variable {b : ContractBindings} {mode : Representation} {ds : List Declaration}
variable {bytecode : Option String} {rs : List ResolvedDeclaration} {g : Gathered}

/-- Every type that a declaration was resolved to agrees with itself. -/
theorem coherent_declared (h : b.Compiled mode ds bytecode rs g) {r : ResolvedDeclaration}
    (hr : r ∈ rs) {t : Resolved} (ht : t ∈ r.inputs ∨ t ∈ r.outputs) :
    t.Coherent mode b.structs := by
  have hs := h.sound r hr
  rcases ht with ht | ht
  · exact hs.inputs.coherent t ht
  · exact hs.outputs.coherent t ht

/-- Struct fields are coherent, and the flag of the struct agrees with them. -/
theorem coherent_struct (h : b.Compiled mode ds bytecode rs g) {d : StructDefinition}
    (hd : d ∈ b.structs) :
    (∀ f ∈ d.fields, f.type.Coherent mode b.structs) ∧
      (d.isDynamic = true ↔ ∃ f ∈ d.fields, f.type.wire.Dynamic b.structs) := by
  obtain ⟨i, hi⟩ := List.mem_iff_getElem?.mp hd
  obtain ⟨⟨parts, hp⟩, hdyn⟩ := h.struct_fields hi
  -- Structs that come later change nothing about these fields.
  have hall : TypeTree.resolveParts mode (structKeys b.structs) parts = some d.body.1 :=
    TypeTree.resolveParts_prefix (List.take_prefix i _) parts hp
  have hfields := coherent_of_resolveParts parts hall
  refine ⟨?_, ?_⟩
  · intro f hf
    exact hfields (f.abiName, f.type) (List.mem_map_of_mem hf)
  · rw [hdyn]
    exact dynamic_of_key d.key_eq_body hfields

theorem coherent_value (h : b.Compiled mode ds bytecode rs g) {t : Resolved}
    (ht : t ∈ b.valueTypes) : t.Coherent mode b.structs := by
  simp only [valueTypes, fieldTypes, List.mem_append, List.mem_flatMap] at ht
  rcases ht with ((⟨d, hd, ht⟩ | ⟨f, hf, ht⟩) | ⟨e, he, ht⟩) | ⟨helper, hd, ht⟩
  · obtain ⟨f, hf, rfl⟩ := List.mem_map.mp ht
    exact (h.coherent_struct hd).1 f hf
  · obtain ⟨r, hr, _, hb⟩ := h.function hf
    rw [List.map_append, hb.inputs, hb.outputs] at ht
    exact h.coherent_declared hr (List.mem_append.mp ht)
  · obtain ⟨r, hr, _, hb⟩ := h.error he
    rw [hb.fields] at ht
    exact h.coherent_declared hr (.inl ht)
  · rcases h.deploy (Option.mem_toList.mp hd) with ⟨_, _, hi⟩ | ⟨r, hr, _, hb⟩
    · simp [hi] at ht
    · rw [hb.inputs] at ht
      exact h.coherent_declared hr (.inl ht)

/-- An event has a field for each input of the declaration that first has its signature. -/
theorem event_inputs (h : b.Compiled mode ds bytecode rs g) {e : EventBinding}
    (he : e ∈ b.events) : ∃ place d types, FirstSigned ds .event place d e.signature ∧
      Settled mode (structKeys b.structs) d.inputs types ∧
      e.fields.map (·.type) = (d.inputs.zip types).map fun x => loggedType x.1 x.2 := by
  obtain ⟨r, hr, hk, hb⟩ := h.event he
  obtain ⟨place, hfirst⟩ := h.firstSigned hr hk rfl
  rw [hb.signature]
  exact ⟨place, r.declaration, r.inputs, hfirst, (h.sound r hr).inputs, hb.fields⟩

/-- Only what is left of an indexed value in a log does not fit its type. -/
theorem coherent_or_topicHash (h : b.Compiled mode ds bytecode rs g) {t : Resolved}
    (ht : t ∈ b.fieldTypes ++ b.memberTypes) :
    t.Coherent mode b.structs ∨ t = .topicHash := by
  by_cases hv : t ∈ b.valueTypes
  · exact .inl (h.coherent_value hv)
  · have he : t ∈ b.events.flatMap fun e => e.fields.map (·.type) := by
      simp only [valueTypes, memberTypes, List.mem_append] at hv ht
      tauto
    obtain ⟨e, hm, hf⟩ := List.mem_flatMap.mp he
    obtain ⟨_, d, types, _, hs, hfields⟩ := h.event_inputs hm
    rw [hfields] at hf
    obtain ⟨x, hx, rfl⟩ := List.mem_map.mp hf
    rcases loggedType_cases x.1 x.2 with hl | hl
    · exact .inr hl
    · rw [hl]
      exact .inl (hs.coherent x.2 (List.of_mem_zip hx).2)

end Compiled

end ContractBindings

/-- Every resolved type is coherent: its target is the one that the mode has for its wire, and it is
flagged dynamic just when its values have no fixed size, as every struct is. The exceptions are event
fields made from indexed inputs whose values leave a hash. -/
theorem types_coherent {options : Options} {contractName : String} {modulePath : ModulePath}
    {ds : List Declaration} {bytecode : Option String} {b : ContractBindings}
    (h : (compileDeclarations options contractName modulePath ds bytecode).result = .ok b) :
    (∀ t ∈ b.valueTypes, t.Coherent options.representation b.structs ∧ t ≠ .topicHash) ∧
    (∀ d ∈ b.structs, d.isDynamic = true ↔ ∃ f ∈ d.fields, f.type.wire.Dynamic b.structs) ∧
    ∀ e ∈ b.events, ∃ place d types, FirstSigned ds .event place d e.signature ∧
      Settled options.representation (structKeys b.structs) d.inputs types ∧
      e.fields.length = d.inputs.length ∧
      ∀ (i : Nat) p t f, d.inputs[i]? = some p → types[i]? = some t → e.fields[i]? = some f →
        t.Coherent options.representation b.structs ∧
        (f.type = .topicHash ↔ p.indexed = true ∧ t.wire.LeavesHash) ∧
        (f.type ≠ .topicHash → f.type = t) := by
  obtain ⟨rs, g, hc⟩ := compileDeclarations_ok h
  refine ⟨?_, ?_, ?_⟩
  · intro t ht
    have hcoherent := hc.coherent_value ht
    exact ⟨hcoherent, hcoherent.ne_topicHash⟩
  · intro d hd
    exact (hc.coherent_struct hd).2
  · intro e he
    obtain ⟨place, d, types, hfirst, hs, hfields⟩ := hc.event_inputs he
    refine ⟨place, d, types, hfirst, hs, ?_, ?_⟩
    · simpa [hs.length] using congrArg List.length hfields
    · intro i p t f hp ht hf
      have hcoherent := hs.coherent t (List.mem_of_getElem? ht)
      have htype : f.type = loggedType p t := by
        have hz : (d.inputs.zip types)[i]? = some (p, t) :=
          List.getElem?_zip_eq_some.mpr ⟨hp, ht⟩
        have hi := congrArg (·[i]?) hfields
        simp only [List.getElem?_map, hf, hz, Option.map_some, Option.some.injEq] at hi
        exact hi
      refine ⟨hcoherent, ?_, ?_⟩
      · rw [htype]
        exact loggedType_eq_topicHash_iff hcoherent.ne_topicHash
      · intro hne
        rw [htype] at hne ⊢
        exact (loggedType_cases p t).resolve_left hne

section Auction

/-- An event mixes inputs that a log has in its topics with inputs that it has in its data; one of
the indexed inputs leaves a hash. Another event is anonymous and fills all topics. -/
def auction : List Declaration :=
  let lot : Parameter := { name := "lot", typeText := "bytes32" }
  let steps : Parameter := { name := "steps", typeText := "uint24[2][]" }
  let code (name : String) : Parameter := { name, typeText := "int8", indexed := true }
  [{ kind := .function, name := some "bid", inputs := [lot, steps] },
    { kind := .event, name := some "Bid"
      inputs := [{ name := "bidder", typeText := "address", indexed := true },
        { name := "amount", typeText := "uint96" },
        { name := "memo", typeText := "string", indexed := true }, steps] },
    { kind := .event, name := some "Trace", anonymous := true
      inputs := [code "a", code "b", { name := "note", typeText := "bytes" }, code "c", code "d"] }]

def auctionSteps : Resolved where
  wire := .array (.array (.elementary (.uint 24)) (some 2)) none
  target := .vec (.array (.native ⟨false, .s32⟩) 2)
  isDynamic := true

def auctionBindings : Except Failure ContractBindings :=
  (compileDeclarations { representation := .native } "Auction" ⟨["market"]⟩ auction none).result

theorem auctionBindings_ok : ∃ b, auctionBindings = .ok b ∧
    (b.valueTypes, b.events.map fun e => e.fields.map fun f => (f.name, f.source)) =
      ([⟨.elementary (.fixedBytes 32), .fixedBytes 32, false⟩, auctionSteps],
        [[("bidder", .topic 1), ("amount", .data 0), ("memo", .topic 2), ("steps", .data 1)],
          [("a", .topic 0), ("b", .topic 1), ("note", .data 0), ("c", .topic 2),
            ("d", .topic 3)]]) :=
  ok_of_view (by decide +kernel)

/-- The events of the auction have four and five fields. -/
theorem auctionBindings_event : ∃ b, auctionBindings = .ok b ∧ auctionSteps ∈ b.valueTypes ∧
    ∃ e ∈ b.events, e.fields.length = 4 := by
  obtain ⟨b, hb, hview⟩ := auctionBindings_ok
  have htypes : b.valueTypes = [_, auctionSteps] := congrArg (·.1) hview
  have hevents := congrArg (fun v => v.2.map List.length) hview
  simp only [List.map_map, Function.comp_def, List.length_map] at hevents
  have hm : 4 ∈ b.events.map fun e => e.fields.length := by
    rw [hevents]
    exact List.mem_cons_self
  obtain ⟨e, he, hlen⟩ := List.mem_map.mp hm
  refine ⟨b, hb, ?_, e, he, hlen⟩
  rw [htypes]
  exact List.mem_cons_of_mem _ (List.mem_singleton_self _)

/-- Steps are dynamic arrays of pairs of primitives, and the event that has them has four inputs. -/
theorem types_coherent_auction : ∃ b, auctionBindings = .ok b ∧
    auctionSteps.Coherent .native b.structs ∧ ∃ e ∈ b.events, ∃ place d types,
      FirstSigned auction .event place d e.signature ∧
      Settled .native (structKeys b.structs) d.inputs types ∧ d.inputs.length = 4 := by
  obtain ⟨b, hb, hsteps, e, he, hlen⟩ := auctionBindings_event
  obtain ⟨hvalues, _, hevents⟩ := types_coherent hb
  obtain ⟨place, d, types, hfirst, hs, hcount, _⟩ := hevents e he
  exact ⟨b, hb, (hvalues _ hsteps).1, e, he, place, d, types, hfirst, hs, hcount.symm.trans hlen⟩

end Auction

end AbiBindings
