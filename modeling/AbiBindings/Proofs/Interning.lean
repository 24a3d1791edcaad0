import AbiBindings.Proofs.TypeTree
import AbiBindings.Shape.Table
import AbiBindings.Representation

namespace AbiBindings

/-- What tells tuple shapes apart: the names of the parts and their types on the wire. -/
abbrev ShapeKey := List (String × Wire)

def ShapeTable.keys (table : ShapeTable) : List ShapeKey := table.map fun s => shapeKey s.fields

namespace TypeTree

mutual

/-- The resolved form of a type when its tuples are found among the shapes known. -/
def resolve (mode : Representation) (keys : List ShapeKey) : TypeTree → Option Resolved
  | .elementary e => (mode.target e).map fun target => ⟨.elementary e, target, e.isDynamic⟩
  | .array t n => (t.resolve mode keys).map (·.arrayOf n)
  | .tuple parts =>
    match resolveParts mode keys parts with
    | none => none
    | some fields => (keys.idxOf? (shapeKey fields)).map fun id =>
      ⟨.tuple id, .struct id, fields.any fun f => f.2.isDynamic⟩

def resolveParts (mode : Representation) (keys : List ShapeKey) :
    List (String × TypeTree) → Option (List (String × Resolved))
  | [] => some []
  | (name, t) :: parts =>
    match t.resolve mode keys, resolveParts mode keys parts with
    | some r, some fields => some ((name, r) :: fields)
    | _, _ => none

end

variable {mode : Representation} {keys keys' : List ShapeKey}

theorem resolve_elementary {e : Elementary} {r : Resolved} :
    (TypeTree.elementary e).resolve mode keys = some r ↔
      ∃ target, mode.target e = some target ∧ ⟨.elementary e, target, e.isDynamic⟩ = r := by
  simp [resolve]

theorem resolve_array {t : TypeTree} {n : Option Nat} {r : Resolved} :
    (TypeTree.array t n).resolve mode keys = some r ↔
      ∃ element, t.resolve mode keys = some element ∧ element.arrayOf n = r := by
  simp [resolve]

/-- A tuple is resolved through its parts, and by the place of its key. -/
theorem resolve_tuple {parts : List (String × TypeTree)} {r : Resolved} :
    (TypeTree.tuple parts).resolve mode keys = some r ↔
      ∃ fields id, resolveParts mode keys parts = some fields ∧
        keys.idxOf? (shapeKey fields) = some id ∧
        ⟨.tuple id, .struct id, fields.any fun f => f.2.isDynamic⟩ = r := by
  simp only [resolve]
  cases resolveParts mode keys parts <;> simp

theorem resolveParts_cons {name : String} {t : TypeTree} {parts : List (String × TypeTree)}
    {fields : List (String × Resolved)} :
    resolveParts mode keys ((name, t) :: parts) = some fields ↔
      ∃ r rest, t.resolve mode keys = some r ∧ resolveParts mode keys parts = some rest ∧
        (name, r) :: rest = fields := by
  simp only [resolveParts]
  cases t.resolve mode keys <;> cases resolveParts mode keys parts <;> simp

theorem resolve_withDims {t : TypeTree} {dims : List (Option Nat)} :
    (t.withDims dims).resolve mode keys = (t.resolve mode keys).map (·.withDims dims) := by
  induction dims generalizing t with
  | nil => simp [withDims, Resolved.withDims]
  | cons d dims ih =>
    change ((t.array d).withDims dims).resolve mode keys = _
    rw [ih, resolve, Option.map_map]
    rfl

theorem idxOf?_prefix (hk : keys <+: keys') {key : ShapeKey} {id : StructId}
    (h : keys.idxOf? key = some id) : keys'.idxOf? key = some id := by
  exact hk.findIdx?_eq_some h

mutual

/-- Shapes that are added later change nothing. -/
theorem resolve_prefix (hk : keys <+: keys') {r : Resolved} :
    (t : TypeTree) → t.resolve mode keys = some r → t.resolve mode keys' = some r
  | .elementary _, h => h
  | .array t n, h => by
    obtain ⟨element, he, hr⟩ := resolve_array.mp h
    exact resolve_array.mpr ⟨element, resolve_prefix hk t he, hr⟩
  | .tuple parts, h => by
    obtain ⟨fields, id, hf, hi, hr⟩ := resolve_tuple.mp h
    exact resolve_tuple.mpr ⟨fields, id, resolveParts_prefix hk parts hf, idxOf?_prefix hk hi, hr⟩

/-- What resolves among some shapes resolves alike when more are known. -/
theorem resolveParts_prefix (hk : keys <+: keys') {fields : List (String × Resolved)} :
    (parts : List (String × TypeTree)) → resolveParts mode keys parts = some fields →
      resolveParts mode keys' parts = some fields
  | [], h => h
  | (name, t) :: parts, h => by
    obtain ⟨r, rest, hr, hp, hf⟩ := resolveParts_cons.mp h
    exact resolveParts_cons.mpr
      ⟨r, rest, resolve_prefix hk t hr, resolveParts_prefix hk parts hp, hf⟩

end

/-- An id is the place of its key. -/
theorem key_of_idxOf? {key : ShapeKey} {id : StructId} (h : keys.idxOf? key = some id) :
    keys[id]? = some key := by
  obtain ⟨hlt, heq, _⟩ := List.findIdx?_eq_some_iff_getElem.mp h
  rw [List.getElem?_eq_getElem hlt]
  simpa using heq

mutual

/-- Types that look the same on the wire are the same, down to the names in their tuples. -/
theorem resolve_wire_injective {r r' : Resolved} :
    (t t' : TypeTree) → t.resolve mode keys = some r → t'.resolve mode keys = some r' →
      r.wire = r'.wire → t = t'
  | .elementary e, t', h, h', hw => by
    obtain ⟨_, _, rfl⟩ := resolve_elementary.mp h
    cases t' with
    | elementary e' =>
      obtain ⟨_, _, rfl⟩ := resolve_elementary.mp h'
      simpa using hw
    | array t' n' =>
      obtain ⟨_, _, rfl⟩ := resolve_array.mp h'
      simp [Resolved.arrayOf] at hw
    | tuple parts' =>
      obtain ⟨_, _, _, _, rfl⟩ := resolve_tuple.mp h'
      simp at hw
  | .array t n, t', h, h', hw => by
    obtain ⟨element, he, rfl⟩ := resolve_array.mp h
    cases t' with
    | elementary e' =>
      obtain ⟨_, _, rfl⟩ := resolve_elementary.mp h'
      simp [Resolved.arrayOf] at hw
    | array t' n' =>
      obtain ⟨element', he', rfl⟩ := resolve_array.mp h'
      simp only [Resolved.arrayOf, Wire.array.injEq] at hw
      rw [resolve_wire_injective t t' he he' hw.1, hw.2]
    | tuple parts' =>
      obtain ⟨_, _, _, _, rfl⟩ := resolve_tuple.mp h'
      simp [Resolved.arrayOf] at hw
  | .tuple parts, t', h, h', hw => by
    obtain ⟨fields, id, hf, hi, rfl⟩ := resolve_tuple.mp h
    cases t' with
    | elementary e' =>
      obtain ⟨_, _, rfl⟩ := resolve_elementary.mp h'
      simp at hw
    | array t' n' =>
      obtain ⟨_, _, rfl⟩ := resolve_array.mp h'
      simp [Resolved.arrayOf] at hw
    | tuple parts' =>
      obtain ⟨fields', id', hf', hi', rfl⟩ := resolve_tuple.mp h'
      simp only [Wire.tuple.injEq] at hw
      subst hw
      -- One id is the place of one key, and the key holds the wires of the parts.
      have hk := Option.some.inj ((key_of_idxOf? hi).symm.trans (key_of_idxOf? hi'))
      rw [resolveParts_key_injective parts parts' hf hf' hk]

/-- Parts of one key are the same parts, at every depth. -/
theorem resolveParts_key_injective {fields fields' : List (String × Resolved)} :
    (parts parts' : List (String × TypeTree)) → resolveParts mode keys parts = some fields →
      resolveParts mode keys parts' = some fields' → shapeKey fields = shapeKey fields' →
      parts = parts'
  | [], [], _, _, _ => rfl
  | [], (name', t') :: parts', h, h', hk => by
    obtain ⟨_, _, _, _, rfl⟩ := resolveParts_cons.mp h'
    cases h
    simp [shapeKey] at hk
  | (name, t) :: parts, [], h, h', hk => by
    obtain ⟨_, _, _, _, rfl⟩ := resolveParts_cons.mp h
    cases h'
    simp [shapeKey] at hk
  | (name, t) :: parts, (name', t') :: parts', h, h', hk => by
    obtain ⟨r, rest, hr, hp, rfl⟩ := resolveParts_cons.mp h
    obtain ⟨r', rest', hr', hp', rfl⟩ := resolveParts_cons.mp h'
    simp only [shapeKey, List.map_cons, List.cons.injEq, Prod.mk.injEq] at hk
    obtain ⟨⟨hn, hw⟩, hrest⟩ := hk
    rw [hn, resolve_wire_injective t t' hr hr' hw,
      resolveParts_key_injective parts parts' hp hp' hrest]

end

end TypeTree

/-- What of a shape reaches the generated struct beside its name. -/
def Shape.body (s : Shape) : List (String × Resolved) × Bool := (s.fields, s.isDynamic)

namespace ShapeTable

variable {mode : Representation} {table table' : ShapeTable}

theorem keys_eq_bodies (table : ShapeTable) :
    table.keys = (table.map Shape.body).map fun b => shapeKey b.1 := by
  simp [keys, Shape.body, Function.comp_def]

theorem keys_of_bodies (h : table'.map Shape.body = table.map Shape.body) :
    table'.keys = table.keys := by
  rw [keys_eq_bodies, h, ← keys_eq_bodies]

@[simp] theorem length_keys (table : ShapeTable) : table.keys.length = table.length := by
  simp [keys]

@[simp] theorem keys_append (table : ShapeTable) (s : Shape) :
    keys (table ++ [s]) = table.keys ++ [shapeKey s.fields] := by
  simp [keys]

/-- Looking for a shape is looking for its key. -/
theorem findIdx?_eq_keys (table : ShapeTable) (fields : List (String × Resolved)) :
    (table.findIdx? fun s => shapeKey s.fields = shapeKey fields) =
      table.keys.idxOf? (shapeKey fields) := by
  simp only [keys, List.idxOf?, List.findIdx?_map]
  congr 1
  funext s
  exact Bool.eq_iff_iff.mpr (by simp)

theorem map_body_modify (table : ShapeTable) (id : StructId) (f : Shape → Shape)
    (hf : ∀ s, (f s).body = s.body) :
    (table.modify id f).map Shape.body = table.map Shape.body := by
  apply List.ext_getElem?
  intro i
  simp only [List.getElem?_map, List.getElem?_modify]
  cases table[i]? with
  | none => rfl
  | some s => by_cases hi : id = i <;> simp [hi, hf]

/-- A known shape at most gains a hint; a new one is added at the end. -/
theorem intern_cases {hint : Option String} {fields : List (String × Resolved)} {origin : String}
    {id : StructId} (h : table.intern hint fields origin = (id, table')) :
    (table.keys.idxOf? (shapeKey fields) = some id ∧
      table'.map Shape.body = table.map Shape.body) ∨
    (shapeKey fields ∉ table.keys ∧ id = table.length ∧
      table' = table ++ [⟨hint, origin, fields, fields.any fun f => f.2.isDynamic⟩]) := by
  simp only [intern, findIdx?_eq_keys] at h
  split at h
  · rename_i hi
    cases h
    exact .inl ⟨hi, map_body_modify table _ _ fun s => rfl⟩
  · rename_i hn
    cases h
    exact .inr ⟨by simpa using hn, rfl, rfl⟩

/-- The id given is the place of the shape's key, and nothing known before has moved. -/
theorem intern_spec {hint : Option String} {fields : List (String × Resolved)} {origin : String}
    {id : StructId} (h : table.intern hint fields origin = (id, table')) :
    table.keys <+: table'.keys ∧ table'.keys.idxOf? (shapeKey fields) = some id := by
  rcases intern_cases h with ⟨hi, hb⟩ | ⟨hn, rfl, rfl⟩
  · rw [keys_of_bodies hb]
    exact ⟨List.prefix_refl _, hi⟩
  · have hnone : table.keys.findIdx? (· == shapeKey fields) = none :=
      List.idxOf?_eq_none_iff.mpr hn
    rw [keys_append]
    refine ⟨List.prefix_append _ _, ?_⟩
    simp [List.idxOf?, List.findIdx?_append, hnone]

/-- At most the shape asked for is new. -/
theorem lt_of_intern {hint : Option String}
    {fields : List (String × Resolved)} {origin : String} {id j : StructId}
    (h : table.intern hint fields origin = (id, table')) (hj : j < table'.length) :
    j < table.length ∨ j = id := by
  rcases intern_cases h with ⟨_, hb⟩ | ⟨_, rfl, rfl⟩
  · have hlen := congrArg List.length hb
    simp only [List.length_map] at hlen
    exact .inl (hlen ▸ hj)
  · rw [List.length_append, List.length_singleton] at hj
    exact Nat.lt_or_eq_of_le (Nat.le_of_lt_succ hj)

/-- Every shape's fields are the resolved parts of a tuple whose inner tuples stand before it. -/
def Grown (mode : Representation) (table : ShapeTable) : Prop :=
  ∀ (i : StructId) s, table[i]? = some s →
    (∃ parts, TypeTree.resolveParts mode (table.keys.take i) parts = some s.fields) ∧
      s.isDynamic = s.fields.any fun f => f.2.isDynamic

theorem Grown.nil : Grown mode [] := by
  intro i s hs
  simp at hs

theorem Grown.of_bodies (hg : Grown mode table)
    (hb : table'.map Shape.body = table.map Shape.body) : Grown mode table' := by
  intro i s' hs'
  have hm := congrArg (·[i]?) hb
  simp only [List.getElem?_map, hs', Option.map_some] at hm
  obtain ⟨s, hs, he⟩ := Option.map_eq_some_iff.mp hm.symm
  simp only [Shape.body, Prod.mk.injEq] at he
  rw [keys_of_bodies hb, ← he.1, ← he.2]
  exact hg i s hs

/-- A shape may be added when its inner tuples are known. -/
theorem Grown.append (hg : Grown mode table) {s : Shape} {parts : List (String × TypeTree)}
    (hp : TypeTree.resolveParts mode table.keys parts = some s.fields)
    (hd : s.isDynamic = s.fields.any fun f => f.2.isDynamic) : Grown mode (table ++ [s]) := by
  intro i s' hs'
  rw [keys_append]
  rcases Nat.lt_trichotomy i table.length with hi | rfl | hi
  · rw [List.getElem?_append_left hi] at hs'
    rw [List.take_append_of_le_length (by simp; omega)]
    exact hg i s' hs'
  · simp only [List.getElem?_concat_length, Option.some.injEq] at hs'
    subst hs'
    rw [List.take_append_of_le_length (by simp), List.take_of_length_le (by simp)]
    exact ⟨⟨parts, hp⟩, hd⟩
  · rw [List.getElem?_eq_none (by simp; omega)] at hs'
    cases hs'

/-- Interning resolved parts keeps a table grown. -/
theorem Grown.intern (hg : Grown mode table) {hint : Option String}
    {fields : List (String × Resolved)} {origin : String} {id : StructId}
    {parts : List (String × TypeTree)}
    (hp : TypeTree.resolveParts mode table.keys parts = some fields)
    (h : table.intern hint fields origin = (id, table')) : Grown mode table' := by
  rcases intern_cases h with ⟨_, hb⟩ | ⟨_, _, rfl⟩
  · exact hg.of_bodies hb
  · exact hg.append hp rfl

end ShapeTable

end AbiBindings
