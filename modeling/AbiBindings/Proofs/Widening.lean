import AbiBindings.Proofs.Acceptance

namespace AbiBindings

/-- The counterpart with words of 256 bits in the place of primitive integers. -/
def Target.widen : Target → Target
  | .native n => if n.signed then .wideInt else .wideUint
  | .vec element => .vec element.widen
  | .array element length => .array element.widen length
  | target => target

namespace Resolved

/-- The wire and the layout stay. -/
def widen (r : Resolved) : Resolved := { r with target := r.target.widen }

@[simp] theorem wire_widen (r : Resolved) : r.widen.wire = r.wire := rfl

@[simp] theorem isDynamic_widen (r : Resolved) : r.widen.isDynamic = r.isDynamic := rfl

@[simp] theorem widen_topicHash : topicHash.widen = topicHash := rfl

@[simp] theorem widen_arrayOf (r : Resolved) (length : Option Nat) :
    (r.arrayOf length).widen = r.widen.arrayOf length := by
  cases length <;> rfl

@[simp] theorem widen_withDims (r : Resolved) (dims : List (Option Nat)) :
    (r.withDims dims).widen = r.widen.withDims dims := by
  induction dims generalizing r with
  | nil => rfl
  | cons d dims ih =>
    change ((r.arrayOf d).withDims dims).widen = (r.widen.arrayOf d).withDims dims
    rw [ih, widen_arrayOf]

end Resolved

def widenMember (member : String × Resolved) : String × Resolved := (member.1, member.2.widen)

def Shape.widen (shape : Shape) : Shape := { shape with fields := shape.fields.map widenMember }

def ResolvedDeclaration.widen (d : ResolvedDeclaration) : ResolvedDeclaration :=
  { d with inputs := d.inputs.map Resolved.widen, outputs := d.outputs.map Resolved.widen }

section Shapes

variable {fields : List (String × Resolved)} {names : List String} {types : List Resolved}

@[simp] theorem shapeKey_widen (fields : List (String × Resolved)) :
    shapeKey (fields.map widenMember) = shapeKey fields := by
  simp [shapeKey, widenMember, Function.comp_def]

@[simp] theorem any_dynamic_widen (fields : List (String × Resolved)) :
    ((fields.map widenMember).any fun f => f.2.isDynamic) = fields.any fun f => f.2.isDynamic := by
  simp [List.any_map, widenMember, Function.comp_def]

theorem zip_widen (names : List String) (types : List Resolved) :
    names.zip (types.map Resolved.widen) = (names.zip types).map widenMember := by
  rw [List.zip_map_right]
  rfl

theorem map_widen_modify (table : ShapeTable) (id : StructId) (hint : Option String) :
    (table.modify id fun s => { s with hint := s.hint.or hint }).map Shape.widen =
      (table.map Shape.widen).modify id fun s => { s with hint := s.hint.or hint } := by
  refine List.ext_getElem? fun i => ?_
  simp only [List.getElem?_map, List.getElem?_modify]
  cases table[i]? with
  | none => rfl
  | some s => by_cases hi : id = i <;> simp [hi, Shape.widen]

/-- Interning looks at types on the wire only. -/
theorem ShapeTable.intern_widen (table : ShapeTable) (hint : Option String)
    (fields : List (String × Resolved)) (origin : String) :
    ShapeTable.intern (table.map Shape.widen) hint (fields.map widenMember) origin =
      ((table.intern hint fields origin).1,
        (table.intern hint fields origin).2.map Shape.widen) := by
  have hfind : (table.map Shape.widen).findIdx?
      (fun s => shapeKey s.fields = shapeKey (fields.map widenMember)) =
      table.findIdx? fun s => shapeKey s.fields = shapeKey fields := by
    simp [List.findIdx?_map, Function.comp_def, Shape.widen]
  simp only [intern, hfind]
  cases table.findIdx? fun s => shapeKey s.fields = shapeKey fields with
  | none => simp only [List.length_map, List.map_append, List.map_singleton, any_dynamic_widen,
      Shape.widen]
  | some id => simp only [map_widen_modify]

end Shapes

/-- Two gatherings under way, one in native and one in precise mode. What they remember is right in
each; their shapes differ in the counterparts of integers. -/
structure Gathered.Widened (g g' : Gathered) : Prop where
  native : g.memo.Faithful .native
  precise : g'.memo.Faithful .precise
  shapes : g'.shapes = g.shapes.map Shape.widen

section Resolving

variable {origin : String} {g g₁ g' : Gathered}

theorem NativeInt.signed_forWidth {bits : Nat} {signed : Bool} {n : NativeInt}
    (h : forWidth bits signed = some n) : n.signed = signed := by
  simp only [forWidth] at h
  split_ifs at h <;> cases h <;> rfl

/-- A type that native mode holds has a wider counterpart in precise mode. -/
theorem precise_target {e : Elementary} {target : Target}
    (h : Representation.native.target e = some target) :
    Representation.precise.target e = some target.widen := by
  cases e with
  | uint bits | int bits =>
    obtain ⟨n, hn, rfl⟩ := Option.map_eq_some_iff.mp h
    rw [Target.widen, NativeInt.signed_forWidth hn]
    rfl
  | _ =>
    cases h
    rfl

namespace Gathered

section Plain

variable {mode : Representation} {typeText : String} {e : Elementary} {dims : List (Option Nat)}

theorem resolvePlain_held (typeText : String) (dims : List (Option Nat)) {target : Target}
    (hm : g.memo.Faithful mode) (ht : mode.target e = some target) :
    ∃ memo, memo.Faithful mode ∧
      g.resolvePlain mode origin typeText ⟨.elementary e, dims⟩ =
        .ok (Resolved.withDims ⟨.elementary e, target, e.isDynamic⟩ dims, { g with memo }) := by
  obtain ⟨hr, hm'⟩ := Memo.resolve_faithful hm ⟨.elementary e, dims⟩
  obtain ⟨⟨result, memo⟩, hresult⟩ : ∃ p, g.memo.resolve mode ⟨.elementary e, dims⟩ = p := ⟨_, rfl⟩
  rw [Memo.resolve_new, ht, hresult] at hr
  rw [hresult] at hm'
  simp only at hr
  exact ⟨memo, hm', by simp only [resolvePlain, hresult, hr]⟩

/-- What a mode has no counterpart for is a loss. -/
theorem resolvePlain_lost {r : Resolved} (hm : g.memo.Faithful mode) (ht : mode.target e = none)
    (h : g.resolvePlain mode origin typeText ⟨.elementary e, dims⟩ = .ok (r, g₁)) :
    g₁.losses ≠ [] := by
  obtain ⟨hr, _⟩ := Memo.resolve_faithful hm ⟨.elementary e, dims⟩
  obtain ⟨⟨result, memo⟩, hresult⟩ : ∃ p, g.memo.resolve mode ⟨.elementary e, dims⟩ = p := ⟨_, rfl⟩
  rw [Memo.resolve_new, ht, hresult] at hr
  simp only at hr
  simp only [resolvePlain, hresult, hr] at h
  cases h
  exact losses_addLoss _ _ _

end Plain

namespace Widened

theorem empty : Gathered.empty.Widened .empty :=
  ⟨fun _ _ hm => (List.not_mem_nil hm).elim, fun _ _ hm => (List.not_mem_nil hm).elim, rfl⟩

/-- Both modes go the same way, unless native mode loses something. -/
theorem resolvePlain {typeText : String} {e : Elementary} {dims : List (Option Nat)}
    {r : Resolved} (hw : g.Widened g') (hl : g₁.losses = [])
    (h : g.resolvePlain .native origin typeText ⟨.elementary e, dims⟩ = .ok (r, g₁)) :
    ∃ g₁', g'.resolvePlain .precise origin typeText ⟨.elementary e, dims⟩ = .ok (r.widen, g₁') ∧
      g₁.Widened g₁' := by
  cases ht : Representation.native.target e with
  | none => exact absurd hl (resolvePlain_lost hw.native ht h)
  | some target =>
    obtain ⟨memo, hm, hr⟩ : ∃ memo, memo.Faithful .native ∧
      g.resolvePlain .native origin typeText ⟨.elementary e, dims⟩ = .ok (_, { g with memo }) :=
        resolvePlain_held typeText dims hw.native ht
    obtain ⟨memo', hm', hr'⟩ : ∃ memo, memo.Faithful .precise ∧
      g'.resolvePlain .precise origin typeText ⟨.elementary e, dims⟩ = .ok (_, { g' with memo }) :=
        resolvePlain_held typeText dims hw.precise (precise_target ht)
    cases hr.symm.trans h
    refine ⟨{ g' with memo := memo' }, ?_, hm, hm', hw.shapes⟩
    rw [hr', Resolved.widen_withDims]
    rfl

end Widened

end Gathered

mutual

/-- A parameter that resolves in native mode without a loss resolves in precise mode to the wider
counterpart, under the same struct ids. -/
theorem resolveParameter_widened {g g₁ g' : Gathered} {r : Resolved} : (p : Parameter) →
    g.Widened g' → g₁.losses = [] → resolveParameter .native origin g p = .ok (r, g₁) →
      ∃ g₁', resolveParameter .precise origin g' p = .ok (r.widen, g₁') ∧ g₁.Widened g₁'
  | ⟨name, typeText, internalType, components, indexed⟩, hw, hl, h => by
    rcases resolveParameter_cases h with
      ⟨e, dims, ht, hp⟩ | ⟨dims, types, g₂, id, shapes, ht, hc, hi, rfl, rfl⟩
    · rw [resolveParameter_elementary ht]
      exact hw.resolvePlain hl hp
    · have hl₂ : g₂.losses = [] := hl
      obtain ⟨g₂', hc', hw'⟩ := resolveParameters_widened components hw hl₂ hc
      have hi' := ShapeTable.intern_widen g₂.shapes
        (Parameter.nameHint ⟨name, typeText, internalType, components, indexed⟩)
        ((components.map (·.name)).zip types) origin
      rw [hi, ← zip_widen, ← hw'.shapes] at hi'
      simp only [resolveParameter, ht, TypeExpr.isTuple, decide_true, Bool.not_true,
        Bool.false_eq_true, ↓reduceIte, hc', hi']
      refine ⟨{ g₂' with shapes := shapes.map Shape.widen }, ?_, hw'.native, hw'.precise, rfl⟩
      rw [zip_widen, any_dynamic_widen, Resolved.widen_withDims]
      rfl

/-- What resolves without loss in native mode resolves alike in precise mode, but for integers. -/
theorem resolveParameters_widened {g g₁ g' : Gathered} {types : List Resolved} :
    (ps : List Parameter) → g.Widened g' → g₁.losses = [] →
      resolveParameters .native origin g ps = .ok (types, g₁) →
      ∃ g₁', resolveParameters .precise origin g' ps = .ok (types.map Resolved.widen, g₁') ∧
        g₁.Widened g₁'
  | [], hw, _, h => by
    cases h
    exact ⟨g', rfl, hw⟩
  | p :: ps, hw, hl, h => by
    obtain ⟨r, g₂, rest, hr, hrest, rfl⟩ := resolveParameters_cons h
    have hl₂ : g₂.losses = [] := List.prefix_nil.mp (hl ▸ losses_resolveParameters _ hrest)
    obtain ⟨g₂', hr', hw₂⟩ := resolveParameter_widened p hw hl₂ hr
    obtain ⟨g₁', hrest', hw₁⟩ := resolveParameters_widened ps hw₂ hl hrest
    exact ⟨g₁', by simp only [resolveParameters, hr', hrest', List.map_cons], hw₁⟩

end

theorem Declaration.resolve_widened {d : Declaration} {sig : String} {r : ResolvedDeclaration}
    (hw : g.Widened g') (hl : g₁.losses = []) (h : d.resolve .native g sig = .ok (r, g₁)) :
    ∃ g₁', d.resolve .precise g' sig = .ok (r.widen, g₁') ∧ g₁.Widened g₁' := by
  have hcheck := Declaration.resolve_checked h
  obtain ⟨inputs, g₂, outputs, hi, ho, rfl⟩ := Declaration.resolve_ok h
  have hl₂ : g₂.losses = [] := List.prefix_nil.mp (hl ▸ losses_resolveParameters _ ho)
  obtain ⟨g₂', hi', hw₂⟩ := resolveParameters_widened _ hw hl₂ hi
  obtain ⟨g₁', ho', hw₁⟩ := resolveParameters_widened _ hw₂ hl ho
  refine ⟨g₁', ?_, hw₁⟩
  simp only [resolve, hcheck, hi', ho']
  rfl

/-- The same declarations are kept and reported in both modes. -/
theorem resolveDeclarations_widened {seen : List (Kind × String)} {ds : List Declaration}
    {rs : List ResolvedDeclaration} (hw : g.Widened g') (hl : g₁.losses = [])
    (h : (resolveDeclarations .native seen g ds).2 = .ok (rs, g₁)) :
    ∃ g₁', resolveDeclarations .precise seen g' ds =
        ((resolveDeclarations .native seen g ds).1, .ok (rs.map (·.widen), g₁')) ∧
      g₁.Widened g₁' := by
  induction ds generalizing seen g g' rs with
  | nil =>
    cases h
    exact ⟨g', rfl, hw⟩
  | cons d ds ih =>
    obtain ⟨sig, hsig, ⟨hm, hrest⟩ | ⟨hm, r, g₂, rest, hr, hrest, rfl⟩⟩ :=
      resolveDeclarations_cons h
    · obtain ⟨g₁', hrest', hw₁⟩ := ih hw hrest
      exact ⟨g₁', by simp only [resolveDeclarations, hsig, if_pos hm, hrest'], hw₁⟩
    · have hl₂ : g₂.losses = [] := List.prefix_nil.mp (hl ▸ losses_resolveDeclarations hrest)
      obtain ⟨g₂', hr', hw₂⟩ := Declaration.resolve_widened hw hl₂ hr
      obtain ⟨g₁', hrest', hw₁⟩ := ih hw₂ hrest
      refine ⟨g₁', ?_, hw₁⟩
      simp only [resolveDeclarations, hsig, if_neg hm, hr, hr', hrest']
      rfl

end Resolving

end AbiBindings
