import AbiBindings.Proofs.Interning
import AbiBindings.Proofs.Scopes
import AbiBindings.Shape.Names

namespace AbiBindings

def StructDefinition.body (d : StructDefinition) : List (String × Resolved) × Bool :=
  (d.fields.map fun f => (f.abiName, f.type), d.isDynamic)

def StructDefinition.key (d : StructDefinition) : ShapeKey :=
  d.fields.map fun f => (f.abiName, f.type.wire)

theorem StructDefinition.key_eq_body (d : StructDefinition) : d.key = shapeKey d.body.1 := by
  simp [key, body, shapeKey, Function.comp_def]

theorem StructDefinition.wires_of_key {d : StructDefinition} {fields : List (String × Resolved)}
    (h : d.key = shapeKey fields) : d.fields.map (·.type.wire) = fields.map (·.2.wire) := by
  have hw := congrArg (List.map (·.2)) h
  simpa [key, shapeKey, Function.comp_def] using hw

def structKeys (structs : List StructDefinition) : List ShapeKey := structs.map (·.key)

theorem structKeys_of_bodies {structs : List StructDefinition} {table : ShapeTable}
    (h : structs.map (·.body) = table.map Shape.body) : structKeys structs = table.keys := by
  rw [ShapeTable.keys_eq_bodies, ← map_of_map h fun b => shapeKey b.1]
  exact List.map_congr_left fun d _ => d.key_eq_body

theorem struct_of_key {structs : List StructDefinition} {id : StructId} {key : ShapeKey}
    (h : (structKeys structs)[id]? = some key) : ∃ d, structs[id]? = some d ∧ d.key = key := by
  rw [structKeys, List.getElem?_map] at h
  exact Option.map_eq_some_iff.mp h

section Definitions

variable {shape : Shape} {id : StructId} {name : String} {d : StructDefinition}
variable {ds : List Diagnostic}

/-- A struct has a field for each part, under the name granted to it. -/
theorem Shape.define_ok (h : shape.define id name = (d, ds)) :
    ∃ claims scope,
      Naming.claimMembers "field" 0 .empty (shape.fields.map (·.1)) = (claims, scope) ∧
      d = ⟨id, name, (claims.zip shape.fields).map fun (c, abiName, type) =>
        ⟨c.name, abiName, type⟩, shape.isDynamic⟩ := by
  simp only [define, Prod.mk.injEq] at h
  exact ⟨_, _, rfl, h.1.symm⟩

theorem Shape.define_body (h : shape.define id name = (d, ds)) : d.body = shape.body := by
  obtain ⟨claims, scope, hc, rfl⟩ := define_ok h
  have hlen : claims.length = shape.fields.length := by
    simpa using Naming.length_claimMembers hc
  have hsnd : ((claims.zip shape.fields).map fun x => (x.2.1, x.2.2)) = shape.fields :=
    List.map_snd_zip (Nat.le_of_eq hlen.symm)
  simp [StructDefinition.body, body, Function.comp_def, hsnd]

/-- The fields of one struct have distinct names. -/
theorem Shape.define_fields_nodup (h : shape.define id name = (d, ds)) :
    (d.fields.map (·.name)).Nodup := by
  obtain ⟨claims, scope, hc, rfl⟩ := define_ok h
  have hlen : claims.length = shape.fields.length := by
    simpa using Naming.length_claimMembers hc
  have hfst := Naming.names_zip hlen
  simpa [Function.comp_def, hfst] using (Naming.claimMembers_grants hc).nodup

variable {pairs : List (Shape × String)} {structs : List StructDefinition}

theorem defineAll_cons (h : defineAll id ((shape, name) :: pairs) = (structs, ds)) :
    ∃ d ds₁ rest ds₂, shape.define id name = (d, ds₁) ∧
      defineAll (id + 1) pairs = (rest, ds₂) ∧ structs = d :: rest := by
  simp only [defineAll, Prod.mk.injEq] at h
  exact ⟨_, _, _, _, rfl, rfl, h.1.symm⟩

/-- Definitions follow the shapes one by one, and an id is a place. -/
theorem defineAll_spec (h : defineAll id pairs = (structs, ds)) :
    structs.map (·.body) = pairs.map (·.1.body) ∧ structs.map (·.name) = pairs.map (·.2) ∧
      structs.map (·.id) = List.range' id pairs.length ∧
      ∀ d ∈ structs, (d.fields.map (·.name)).Nodup := by
  induction pairs generalizing id structs ds with
  | nil =>
    cases h
    exact ⟨rfl, rfl, rfl, by simp⟩
  | cons pair pairs ih =>
    obtain ⟨shape, name⟩ := pair
    obtain ⟨d, ds₁, rest, ds₂, hd, hr, rfl⟩ := defineAll_cons h
    obtain ⟨hb, hn, hi, hf⟩ := ih hr
    obtain ⟨claims, scope, _, he⟩ := Shape.define_ok hd
    refine ⟨?_, ?_, ?_, ?_⟩
    · rw [List.map_cons, List.map_cons, Shape.define_body hd, hb]
    · rw [List.map_cons, List.map_cons, hn, he]
    · rw [List.map_cons, List.length_cons, List.range'_succ, hi, he]
    · intro d' hd'
      rcases List.mem_cons.mp hd' with rfl | hd'
      · exact Shape.define_fields_nodup hd
      · exact hf d' hd'

end Definitions

section Names

variable {table : ShapeTable} {id : StructId} {scope scope' : Scope}
variable {cs : List Candidate} {names : List String} {ds : List Diagnostic}

/-- The names that shapes have as they wanted them. -/
def grantedNames (cs : List Candidate) : List String :=
  (cs.filter (·.granted)).map (·.wanted)

/-- A shape tries the name it wants before the later ones do. -/
theorem candidates_cons {shape : Shape} (h : candidates id scope (shape :: table) = (cs, scope')) :
    ∃ granted scope₁ rest, scope.tryClaim (shape.wanted id) = (granted, scope₁) ∧
      candidates (id + 1) scope₁ table = (rest, scope') ∧
      cs = ⟨shape, shape.wanted id, granted⟩ :: rest := by
  simp only [candidates, Prod.mk.injEq] at h
  exact ⟨_, _, _, rfl, Prod.ext rfl h.2, h.1.symm⟩

/-- Every shape is a candidate, and the names granted are new and differ. -/
theorem candidates_spec (h : candidates id scope table = (cs, scope')) :
    cs.map (·.shape) = table ∧ scope.Grants (grantedNames cs) scope' := by
  induction table generalizing id scope cs with
  | nil =>
    cases h
    exact ⟨rfl, .none _⟩
  | cons shape table ih =>
    obtain ⟨granted, scope₁, rest, ht, hr, rfl⟩ := candidates_cons h
    obtain ⟨hs, hg⟩ := ih hr
    refine ⟨by rw [List.map_cons, hs], ?_⟩
    cases granted with
    | true =>
      obtain ⟨hn, rfl⟩ := Scope.tryClaim_true ht
      exact (Scope.Grants.one hn).append hg
    | false =>
      obtain ⟨_, rfl⟩ := Scope.tryClaim_false ht
      exact hg

/-- A shape has the name it wants, or takes a numbered one at its turn. -/
theorem settleNames_cons {contractType : String} {granted : List String} {c : Candidate}
    (h : settleNames contractType granted scope (c :: cs) = (names, ds, scope')) :
    (c.granted = true ∧ ∃ rest ds₁,
      settleNames contractType granted scope cs = (rest, ds₁, scope') ∧
      names = c.wanted :: rest) ∨
    (c.granted = false ∧ ∃ renamed scope₁ rest ds₁,
      scope.claimNumbered c.wanted "" = (renamed, scope₁) ∧
      settleNames contractType (renamed :: granted) scope₁ cs = (rest, ds₁, scope') ∧
      names = renamed :: rest) := by
  simp only [settleNames] at h
  split at h
  · rename_i hg
    simp only [Prod.mk.injEq] at h
    exact .inl ⟨hg, _, _, Prod.ext rfl (Prod.ext rfl h.2.2), h.1.symm⟩
  · rename_i hg
    simp only [Prod.mk.injEq] at h
    exact .inr ⟨by simpa using hg, _, _, _, _, rfl, Prod.ext rfl (Prod.ext rfl h.2.2), h.1.symm⟩

/-- The names that shapes end up with are those they wanted and, for the others, new ones. -/
theorem settleNames_spec {contractType : String} {granted : List String}
    (h : settleNames contractType granted scope cs = (names, ds, scope')) :
    names.length = cs.length ∧ ∃ renamed, scope.Grants renamed scope' ∧
      (grantedNames cs ++ renamed).Perm names := by
  induction cs generalizing granted scope names ds with
  | nil =>
    cases h
    exact ⟨rfl, [], .none _, .refl _⟩
  | cons c cs ih =>
    rcases settleNames_cons h with
      ⟨hg, rest, ds₁, hr, rfl⟩ | ⟨hg, name, scope₁, rest, ds₁, hc, hr, rfl⟩
    · obtain ⟨hl, renamed, hgr, hp⟩ := ih hr
      refine ⟨by simp [hl], renamed, hgr, ?_⟩
      simpa [grantedNames, hg] using hp
    · obtain ⟨hl, renamed, hgr, hp⟩ := ih hr
      refine ⟨by simp [hl], name :: renamed, (Scope.claimNumbered_grants hc).append hgr, ?_⟩
      have hm : (grantedNames cs ++ name :: renamed).Perm (name :: (grantedNames cs ++ renamed)) :=
        List.perm_middle
      simpa [grantedNames, hg] using hm.trans (hp.cons name)

/-- Naming goes in three steps: what is wanted, what is had in the end, and the definitions. -/
theorem ShapeTable.name_ok {contractType : String} {structs : List StructDefinition}
    (h : table.name scope contractType = (structs, ds, scope')) :
    ∃ cs scope₁ names renamed fieldsRenamed, candidates 0 scope table = (cs, scope₁) ∧
      settleNames contractType (grantedNames cs) scope₁ cs = (names, renamed, scope') ∧
      defineAll 0 (table.zip names) = (structs, fieldsRenamed) ∧
      ds = renamed ++ fieldsRenamed ∧ names.length = table.length := by
  obtain ⟨⟨cs, scope₁⟩, hc⟩ : ∃ p, candidates 0 scope table = p := ⟨_, rfl⟩
  obtain ⟨⟨names, renamed, scope₂⟩, hn⟩ :
    ∃ p, settleNames contractType (grantedNames cs) scope₁ cs = p := ⟨_, rfl⟩
  obtain ⟨⟨definitions, fieldsRenamed⟩, hd⟩ : ∃ p, defineAll 0 (table.zip names) = p := ⟨_, rfl⟩
  have hlen : names.length = table.length := by
    rw [(settleNames_spec hn).1, ← (candidates_spec hc).1, List.length_map]
  simp only [grantedNames] at hn
  simp only [ShapeTable.name, hc, hn, hd, Prod.mk.injEq] at h
  obtain ⟨rfl, rfl, rfl⟩ := h
  exact ⟨cs, scope₁, names, renamed, fieldsRenamed, hc, hn, hd, rfl, hlen⟩

/-- Naming the shapes makes one struct of each, at its place and with its fields. -/
theorem ShapeTable.name_spec {contractType : String} {structs : List StructDefinition}
    (h : table.name scope contractType = (structs, ds, scope')) :
    structs.map (·.body) = table.map Shape.body ∧
      structs.map (·.id) = List.range structs.length ∧
      (∀ d ∈ structs, (d.fields.map (·.name)).Nodup) ∧
      scope.Grants (structs.map (·.name)) scope' := by
  obtain ⟨cs, scope₁, names, renamed, fieldsRenamed, hc, hn, hd, _, hlen⟩ := name_ok h
  obtain ⟨_, hg⟩ := candidates_spec hc
  obtain ⟨_, others, hgr, hp⟩ := settleNames_spec hn
  obtain ⟨hb, hnames, hids, hf⟩ := defineAll_spec hd
  have hshapes : (table.zip names).map (·.1) = table :=
    List.map_fst_zip (Nat.le_of_eq hlen.symm)
  have hwanted : (table.zip names).map (·.2) = names := List.map_snd_zip (Nat.le_of_eq hlen)
  have hcount : structs.length = (table.zip names).length := by
    simpa using congrArg List.length hnames
  refine ⟨?_, ?_, hf, ?_⟩
  · exact hb.trans (map_of_map hshapes Shape.body)
  · rw [hids, hcount, List.range_eq_range']
  · rw [hnames, hwanted]
    exact (hg.append hgr).perm hp

end Names

end AbiBindings
