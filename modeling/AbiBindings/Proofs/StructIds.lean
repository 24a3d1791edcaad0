import AbiBindings.Proofs.Compilation
import AbiBindings.Proofs.Mentions

namespace AbiBindings

mutual

/-- Types are the same when their dimensions are, over one elementary type or over tuples of the
same parts. -/
inductive SameType : Parameter → Parameter → Prop
  | elementary {p p' : Parameter} {e : Elementary} {dims : List (Option Nat)}
    (h : TypeExpr.parse p.typeText = .ok ⟨.elementary e, dims⟩)
    (h' : TypeExpr.parse p'.typeText = .ok ⟨.elementary e, dims⟩) : SameType p p'
  | tuple {p p' : Parameter} {dims : List (Option Nat)}
    (h : TypeExpr.parse p.typeText = .ok ⟨.tuple, dims⟩)
    (h' : TypeExpr.parse p'.typeText = .ok ⟨.tuple, dims⟩)
    (hs : SameParts p.components p'.components) : SameType p p'

/-- Parts are the same when they are equally many, and pairwise of one name and one type. -/
inductive SameParts : List Parameter → List Parameter → Prop
  | nil : SameParts [] []
  | cons {p p' : Parameter} {ps ps' : List Parameter} (hname : p.name = p'.name)
    (htype : SameType p p') (hs : SameParts ps ps') : SameParts (p :: ps) (p' :: ps')

end

section Trees

def TypeTree.stem : TypeTree → TypeTree × List (Option Nat)
  | .elementary e => (.elementary e, [])
  | .tuple parts => (.tuple parts, [])
  | .array t n => (t.stem.1, t.stem.2 ++ [n])

theorem TypeTree.stem_withDims (t : TypeTree) (dims : List (Option Nat)) :
    (t.withDims dims).stem = (t.stem.1, t.stem.2 ++ dims) := by
  induction dims generalizing t with
  | nil => simp [withDims]
  | cons d dims ih =>
    change ((t.array d).withDims dims).stem = _
    rw [ih]
    simp [stem]

/-- An element that is no array shows apart from its dimensions. -/
theorem TypeTree.withDims_inj {t t' : TypeTree} {dims dims' : List (Option Nat)}
    (ht : t.stem = (t, [])) (ht' : t'.stem = (t', [])) (h : t.withDims dims = t'.withDims dims') :
    t = t' ∧ dims = dims' := by
  have hs := congrArg stem h
  rw [stem_withDims, stem_withDims, ht, ht'] at hs
  simpa using hs

/-- The tree of a parameter is that of an elementary type or of a tuple, in its arrays. -/
theorem Parameter.tree_cases {p : Parameter} {t : TypeTree} (h : p.tree = some t) :
    (∃ e dims, TypeExpr.parse p.typeText = .ok ⟨.elementary e, dims⟩ ∧
      t = .withDims (.elementary e) dims) ∨
    (∃ dims parts, TypeExpr.parse p.typeText = .ok ⟨.tuple, dims⟩ ∧
      Parameter.parts p.components = some parts ∧ t = .withDims (.tuple parts) dims) := by
  obtain ⟨name, typeText, internalType, components, indexed⟩ := p
  simp only [tree] at h
  split at h
  · cases h
  · rename_i e dims he
    cases h
    exact .inl ⟨e, dims, he, rfl⟩
  · rename_i dims he
    split at h
    · cases h
    · obtain ⟨parts, hp, ht⟩ := Option.map_eq_some_iff.mp h
      exact .inr ⟨dims, parts, he, hp, ht.symm⟩

theorem Parameter.parts_cases {p : Parameter} {ps : List Parameter}
    {parts : List (String × TypeTree)} (h : Parameter.parts (p :: ps) = some parts) :
    ∃ t rest, p.tree = some t ∧ Parameter.parts ps = some rest ∧ parts = (p.name, t) :: rest := by
  simp only [Parameter.parts] at h
  split at h
  · rename_i t rest ht hr
    cases h
    exact ⟨t, rest, ht, hr, rfl⟩
  · cases h

theorem Parameter.tree_ofTuples {p : Parameter} {dims : List (Option Nat)}
    (h : TypeExpr.parse p.typeText = .ok ⟨.tuple, dims⟩) :
    p.tree = if p.components.isEmpty then none
      else (Parameter.parts p.components).map fun parts => .withDims (.tuple parts) dims := by
  obtain ⟨name, typeText, internalType, components, indexed⟩ := p
  simp only at h
  simp only [tree, h]

theorem SameParts.isEmpty_eq {ps ps' : List Parameter} (h : SameParts ps ps') :
    ps.isEmpty = ps'.isEmpty := by
  cases h <;> rfl

mutual

theorem SameType.tree_eq {p p' : Parameter} : SameType p p' → p.tree = p'.tree
  | .elementary h h' => by
    obtain ⟨name, typeText, internalType, components, indexed⟩ := p
    obtain ⟨name', typeText', internalType', components', indexed'⟩ := p'
    simp only at h h'
    simp only [Parameter.tree, h, h']
  | .tuple h h' hs => by
    rw [Parameter.tree_ofTuples h, Parameter.tree_ofTuples h', hs.isEmpty_eq, hs.parts_eq]

/-- Same parts have the same trees, so that they make one shape. -/
theorem SameParts.parts_eq {ps ps' : List Parameter} :
    SameParts ps ps' → Parameter.parts ps = Parameter.parts ps'
  | .nil => rfl
  | .cons hname htype hs => by
    simp only [Parameter.parts, hname, htype.tree_eq, hs.parts_eq]

end

mutual

/-- Only parameters of the same type have one tree. -/
theorem sameType_of_tree {p' : Parameter} {t : TypeTree} (h' : p'.tree = some t) :
    (p : Parameter) → p.tree = some t → SameType p p'
  | ⟨name, typeText, internalType, components, indexed⟩, h => by
    rcases Parameter.tree_cases h with ⟨e, dims, he, ht⟩ | ⟨dims, parts, hd, hp, ht⟩
    · rcases Parameter.tree_cases h' with ⟨e', dims', he', rfl⟩ | ⟨dims', parts', hd', hp', rfl⟩
      · obtain ⟨he₀, rfl⟩ := TypeTree.withDims_inj rfl rfl ht
        cases he₀
        exact .elementary he he'
      · obtain ⟨hd₀, _⟩ := TypeTree.withDims_inj rfl rfl ht
        cases hd₀
    · rcases Parameter.tree_cases h' with ⟨e', dims', he', rfl⟩ | ⟨dims', parts', hd', hp', rfl⟩
      · obtain ⟨he₀, _⟩ := TypeTree.withDims_inj rfl rfl ht
        cases he₀
      · obtain ⟨hd₀, rfl⟩ := TypeTree.withDims_inj rfl rfl ht
        cases hd₀
        exact .tuple hd hd' (sameParts_of_parts hp' components hp)

theorem sameParts_of_parts {ps' : List Parameter} {parts : List (String × TypeTree)}
    (h' : Parameter.parts ps' = some parts) :
    (ps : List Parameter) → Parameter.parts ps = some parts → SameParts ps ps'
  | [], h => by
    cases h
    cases ps' with
    | nil => exact .nil
    | cons p' ps' =>
      obtain ⟨_, _, _, _, he⟩ := Parameter.parts_cases h'
      cases he
  | p :: ps, h => by
    obtain ⟨t, rest, ht, hr, rfl⟩ := Parameter.parts_cases h
    cases ps' with
    | nil => cases h'
    | cons p' ps' =>
      obtain ⟨t', rest', ht', hr', he⟩ := Parameter.parts_cases h'
      simp only [List.cons.injEq, Prod.mk.injEq] at he
      obtain ⟨⟨hname, rfl⟩, rfl⟩ := he
      exact .cons hname (sameType_of_tree ht' p ht) (sameParts_of_parts hr' ps hr)

end

end Trees

section Places

variable {mode : Representation} {keys : List ShapeKey} {q q' : Parameter} {id id' : StructId}
variable {fields fields' : List (String × Resolved)}

/-- The tuple that a parameter is made of is the shape at a place, with the fields it resolves to. -/
def Located (mode : Representation) (keys : List ShapeKey) (q : Parameter)
    (fields : List (String × Resolved)) (id : StructId) : Prop :=
  ∃ parts, Parameter.parts q.components = some parts ∧
    TypeTree.resolveParts mode keys parts = some fields ∧ keys.idxOf? (shapeKey fields) = some id

/-- Two tuples share their place just when they have the same parts. -/
theorem Located.eq_iff (h : Located mode keys q fields id) (h' : Located mode keys q' fields' id') :
    id = id' ↔ SameParts q.components q'.components := by
  obtain ⟨parts, hp, hf, hi⟩ := h
  obtain ⟨parts', hp', hf', hi'⟩ := h'
  constructor
  · rintro rfl
    have hk := Option.some.inj
      ((TypeTree.key_of_idxOf? hi).symm.trans (TypeTree.key_of_idxOf? hi'))
    obtain rfl := TypeTree.resolveParts_key_injective parts parts' hf hf' hk
    exact sameParts_of_parts hp' _ hp
  · intro hs
    obtain rfl := Option.some.inj (hp.symm.trans (hs.parts_eq.trans hp'))
    obtain rfl := Option.some.inj (hf.symm.trans hf')
    exact Option.some.inj (hi.symm.trans hi')

/-- What a visit gives an id stays at that place until the run ends. -/
theorem Visit.located {origin : String} {g final g' : Gathered} {r : Resolved}
    (hv : Visit mode origin g q final r g') (hq : q.OfTuples) :
    ∃ id types g₁, GivenId mode origin g q id ∧
      resolveParameters mode origin g q.components = .ok (types, g₁) ∧
      Located mode final.shapes.keys q ((q.components.map (·.name)).zip types) id := by
  obtain ⟨types, g₁, id, shapes, hc, hi, hid, rfl⟩ := resolveParameter_ofTuples hq hv.resolved
  have hl : g₁.losses = [] := hv.lossless
  have hk : shapes.keys <+: final.shapes.keys := hv.keeps
  obtain ⟨_, _, parts, hp, hf⟩ := resolveParameters_spec _ hv.sound hl hc
  obtain ⟨hk', hplace⟩ := ShapeTable.intern_spec hi
  exact ⟨id, types, g₁, ⟨hq, r, _, hv.resolved, hid⟩, hc, parts, hp,
    TypeTree.resolveParts_prefix (hk'.trans hk) parts hf, TypeTree.idxOf?_prefix hk hplace⟩

end Places

/-- The id that a tuple is given does not depend on how the run goes on. -/
theorem GivenId.unique {mode : Representation} {origin : String} {g : Gathered} {q : Parameter}
    {id id' : StructId} (h : GivenId mode origin g q id) (h' : GivenId mode origin g q id') :
    id = id' := by
  obtain ⟨r, g₁, hr, hid⟩ := h.resolved
  obtain ⟨r', g₁', hr', hid'⟩ := h'.resolved
  cases hr.symm.trans hr'
  exact Option.some.inj (hid.symm.trans hid')

namespace ContractBindings.Compiled

variable {b : ContractBindings} {mode : Representation} {ds : List Declaration}
variable {bytecode : Option String} {rs : List ResolvedDeclaration} {final : Gathered}
variable {origin : String} {g : Gathered} {q : Parameter}

/-- Every tuple met is given an id, which is its place among the structs. -/
theorem located (h : b.Compiled mode ds bytecode rs final)
    (hm : MetIn mode [] .empty ds origin g q) (hq : q.OfTuples) :
    ∃ id types g₁, GivenId mode origin g q id ∧
      resolveParameters mode origin g q.components = .ok (types, g₁) ∧
      Located mode (structKeys b.structs) q ((q.components.map (·.name)).zip types) id := by
  obtain ⟨r, g', hv⟩ := hm.visit Gathered.sound_empty h.lossless h.resolved
  rw [h.structKeys_eq]
  exact hv.located hq

/-- A tuple that was mentioned is found among the structs. -/
theorem located_of_mention (h : b.Compiled mode ds bytecode rs final) {id : StructId}
    (hm : Mention mode ds origin g q id) :
    ∃ fields, Located mode (structKeys b.structs) q fields id := by
  obtain ⟨id', types, _, hgiven, _, hl⟩ := h.located hm.met hm.given.ofTuples
  obtain rfl := hgiven.unique hm.given
  exact ⟨_, hl⟩

end ContractBindings.Compiled

/-- The tuples mentioned and the structs generated go together by shape: every mention is given an
id that is the place of a struct with its parts for fields, two mentions are given the same id just
when their parts are the same, and there is no struct that is not mentioned. -/
theorem struct_ids_by_shape {options : Options} {contractName : String} {modulePath : ModulePath}
    {ds : List Declaration} {bytecode : Option String} {b : ContractBindings}
    (h : (compileDeclarations options contractName modulePath ds bytecode).result = .ok b) :
    (∀ origin g q, MetIn options.representation [] .empty ds origin g q → q.OfTuples →
      ∃ id types g', GivenId options.representation origin g q id ∧
        resolveParameters options.representation origin g q.components = .ok (types, g') ∧
        ∃ d, b.structs[id]? = some d ∧
          d.key = shapeKey ((q.components.map (·.name)).zip types)) ∧
    (∀ origin g q id origin' g' q' id', Mention options.representation ds origin g q id →
      Mention options.representation ds origin' g' q' id' →
      (id = id' ↔ SameParts q.components q'.components)) ∧
    ∀ id, id < b.structs.length →
      ∃ origin g q, Mention options.representation ds origin g q id := by
  obtain ⟨rs, final, hc⟩ := compileDeclarations_ok h
  refine ⟨?_, ?_, ?_⟩
  · intro origin g q hm hq
    obtain ⟨id, types, g', hgiven, hr, _, _, _, hi⟩ := hc.located hm hq
    exact ⟨id, types, g', hgiven, hr, struct_of_key (TypeTree.key_of_idxOf? hi)⟩
  · intro origin g q id origin' g' q' id' hm hm'
    obtain ⟨fields, hl⟩ := hc.located_of_mention hm
    obtain ⟨fields', hl'⟩ := hc.located_of_mention hm'
    exact hl.eq_iff hl'
  · intro id hid
    have hlen : b.structs.length = final.shapes.length := by
      simpa using congrArg List.length hc.built.bodies
    obtain ⟨origin, g, q, hm, hgiven⟩ :=
      resolveDeclarations_origin hc.resolved (Nat.zero_le id) (hlen ▸ hid)
    exact ⟨origin, g, q, hm, hgiven⟩

/-- The order that the constructor takes becomes a struct, and there is one more. -/
theorem struct_ids_by_shape_exchange : ∃ b, exchangeBindings = .ok b ∧ b.structs.length = 2 ∧
    (∃ id d, GivenId .precise "constructor" .empty (orderParameter "order" "tuple") id ∧
      b.structs[id]? = some d) ∧
    ∀ id, id < 2 → ∃ origin g q, Mention .precise exchange origin g q id := by
  obtain ⟨b, hb, hview⟩ := exchangeBindings_ok
  have hlen : b.structs.length = 2 := congrArg (·.2.2.2) hview
  have hsig : signature "constructor" [orderParameter "order" "tuple"] "constructor" =
    .ok "constructor((address,uint256[2]))" := by rfl
  have hmet : MetIn .precise [] .empty exchange "constructor" .empty
      (orderParameter "order" "tuple") :=
    .input hsig List.not_mem_nil (.here _ _ _)
  obtain ⟨hgiven, _, hall⟩ := struct_ids_by_shape hb
  obtain ⟨id, _, _, hid, _, d, hd, _⟩ := hgiven _ _ _ hmet ⟨[], by rfl⟩
  exact ⟨b, hb, hlen, ⟨id, d, hid, hd⟩, hlen ▸ hall⟩

end AbiBindings
