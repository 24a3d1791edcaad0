import AbiBindings.Proofs.Interning
import Mathlib.Data.List.Nodup

namespace AbiBindings

structure ShapeRequest where
  hint : Option String
  fields : List (String × Resolved)
  origin : String

def ShapeRequest.key (r : ShapeRequest) : ShapeKey := shapeKey r.fields

/-- The first hint that comes with a key. -/
def firstHint (requests : List ShapeRequest) (key : ShapeKey) : Option String :=
  requests.findSome? fun r => if r.key = key then r.hint else none

/-- A later hint counts only for a key without one. -/
theorem firstHint_concat (requests : List ShapeRequest) (r : ShapeRequest) (key : ShapeKey) :
    firstHint (requests ++ [r]) key =
      (firstHint requests key).or (if r.key = key then r.hint else none) := by
  rw [firstHint, List.findSome?_append, List.findSome?_singleton]
  rfl

theorem firstHint_eq_none {requests : List ShapeRequest} {key : ShapeKey}
    (h : key ∉ requests.map (·.key)) : firstHint requests key = none := by
  refine List.findSome?_eq_none_iff.mpr fun r hr => if_neg fun he => h ?_
  exact he ▸ List.mem_map_of_mem hr

namespace ShapeTable

variable {table : ShapeTable} {before : List ShapeRequest}

def internAll (table : ShapeTable) (requests : List ShapeRequest) : ShapeTable :=
  requests.foldl (fun table r => (table.intern r.hint r.fields r.origin).2) table

theorem internAll_append (table : ShapeTable) (xs ys : List ShapeRequest) :
    table.internAll (xs ++ ys) = (table.internAll xs).internAll ys := List.foldl_append

/-- What a table has become by requests: one shape for each key asked for, with the first hint that
came with the key. -/
structure MadeBy (table : ShapeTable) (requests : List ShapeRequest) : Prop where
  once : table.keys.Nodup
  known : ∀ key, key ∈ table.keys ↔ key ∈ requests.map (·.key)
  hints : ∀ s ∈ table, s.hint = firstHint requests (shapeKey s.fields)

theorem MadeBy.nil : MadeBy [] [] := ⟨.nil, by simp [keys], by simp⟩

/-- Of a known shape only a missing hint is filled in. -/
theorem intern_known {hint : Option String} {fields : List (String × Resolved)} {origin : String}
    {id : StructId} (h : table.keys.idxOf? (shapeKey fields) = some id) :
    (table.intern hint fields origin).2 =
      table.modify id fun s => { s with hint := s.hint.or hint } := by
  simp only [intern, findIdx?_eq_keys, h]

/-- A key not met before adds a shape at the end. -/
theorem intern_new {hint : Option String} {fields : List (String × Resolved)} {origin : String}
    (h : shapeKey fields ∉ table.keys) :
    (table.intern hint fields origin).2 =
      table ++ [⟨hint, origin, fields, fields.any fun f => f.2.isDynamic⟩] := by
  have hnone := List.idxOf?_eq_none_iff.mpr h
  simp only [intern, findIdx?_eq_keys, hnone]

/-- A key met before adds nothing but a hint that is missing. -/
theorem MadeBy.intern_known (h : table.MadeBy before) {r : ShapeRequest} {id : StructId}
    (hid : table.keys.idxOf? r.key = some id) :
    (table.intern r.hint r.fields r.origin).2.MadeBy (before ++ [r]) := by
  have hkey := TypeTree.key_of_idxOf? hid
  have hmem : r.key ∈ before.map (·.key) := (h.known _).mp (List.mem_of_getElem? hkey)
  have hbodies := map_body_modify table id (fun s => { s with hint := s.hint.or r.hint })
    fun s => rfl
  rw [ShapeTable.intern_known hid]
  refine ⟨?_, fun key => ?_, ?_⟩
  · rw [keys_of_bodies hbodies]
    exact h.once
  · rw [keys_of_bodies hbodies, h.known, List.map_append, List.mem_append, List.map_singleton,
      List.mem_singleton]
    constructor
    · exact .inl
    · rintro (hk | rfl)
      · exact hk
      · exact hmem
  · intro s hs
    obtain ⟨i, hi⟩ := List.getElem?_of_mem hs
    rw [List.getElem?_modify] at hi
    obtain ⟨s₀, hs₀, rfl⟩ := Option.map_eq_some_iff.mp hi
    have hold := h.hints s₀ (List.mem_of_getElem? hs₀)
    have hplace : table.keys[i]? = some (shapeKey s₀.fields) := by
      rw [ShapeTable.keys, List.getElem?_map, hs₀, Option.map_some]
    by_cases hi : id = i
    · subst hi
      have hsame := Option.some.inj (hkey.symm.trans hplace)
      simp only [↓reduceIte, firstHint_concat, hold, hsame]
    · -- A key has one place only, so the request was for another one.
      have hne : r.key ≠ shapeKey s₀.fields := by
        intro he
        obtain ⟨hlt, _⟩ := List.getElem?_eq_some_iff.mp hkey
        exact hi ((List.getElem?_inj hlt h.once).mp (hkey.trans (he ▸ hplace.symm)))
      simp only [hi, ↓reduceIte, firstHint_concat, if_neg hne, Option.or_none, hold]

theorem MadeBy.intern_new (h : table.MadeBy before) {r : ShapeRequest} (hnew : r.key ∉ table.keys) :
    (table.intern r.hint r.fields r.origin).2.MadeBy (before ++ [r]) := by
  have hnone : r.key ∉ before.map (·.key) := fun hm => hnew ((h.known _).mpr hm)
  rw [ShapeTable.intern_new hnew]
  refine ⟨?_, fun key => ?_, ?_⟩
  · rw [keys_append, ← List.concat_eq_append]
    exact .concat hnew h.once
  · rw [keys_append, List.mem_append, h.known, List.map_append, List.mem_append]
    rfl
  · rw [List.forall_mem_append, List.forall_mem_singleton]
    refine ⟨fun s hs => ?_, ?_⟩
    · have hne : r.key ≠ shapeKey s.fields := fun he => hnew (he ▸ List.mem_map_of_mem hs)
      rw [h.hints s hs, firstHint_concat, if_neg hne, Option.or_none]
    · change r.hint = firstHint (before ++ [r]) r.key
      rw [firstHint_concat, firstHint_eq_none hnone, if_pos rfl, Option.none_or]

theorem MadeBy.intern (h : table.MadeBy before) (r : ShapeRequest) :
    (table.intern r.hint r.fields r.origin).2.MadeBy (before ++ [r]) := by
  cases hid : table.keys.idxOf? r.key with
  | some id => exact h.intern_known hid
  | none => exact h.intern_new (List.idxOf?_eq_none_iff.mp hid)

theorem MadeBy.internAll (h : table.MadeBy before) (requests : List ShapeRequest) :
    (table.internAll requests).MadeBy (before ++ requests) := by
  induction requests generalizing table before with
  | nil => rwa [List.append_nil]
  | cons r requests ih =>
    have hrun := ih (h.intern r)
    rwa [List.append_assoc, List.singleton_append] at hrun

end ShapeTable

end AbiBindings
