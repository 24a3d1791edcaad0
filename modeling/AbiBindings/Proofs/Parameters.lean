import AbiBindings.Proofs.Memo
import AbiBindings.Resolution.Parameters

namespace AbiBindings

variable {mode : Representation}

namespace Gathered

/-- What holds between two steps as long as nothing was lost. -/
structure Sound (mode : Representation) (g : Gathered) : Prop where
  memo : g.memo.Faithful mode
  shapes : g.shapes.Grown mode

theorem sound_empty : Gathered.empty.Sound mode :=
  ⟨fun _ _ hm => (List.not_mem_nil hm).elim, ShapeTable.Grown.nil⟩

/-- A later state knows every shape of an earlier one, at its place. -/
def Keeps (g g' : Gathered) : Prop := g.shapes.keys <+: g'.shapes.keys

theorem Keeps.refl (g : Gathered) : g.Keeps g := List.prefix_refl _

theorem Keeps.trans {g g' g'' : Gathered} (h : g.Keeps g') (h' : g'.Keeps g'') : g.Keeps g'' :=
  List.IsPrefix.trans h h'

theorem Keeps.of_shapes {g g' : Gathered} (h : g'.shapes = g.shapes) : g.Keeps g' := by
  simp only [Keeps, h, List.prefix_refl]

theorem losses_addLoss (g : Gathered) (origin typeText : String) :
    (g.addLoss origin typeText).losses ≠ [] := by
  unfold addLoss
  dsimp only
  split
  · rename_i hm
    exact List.ne_nil_of_mem hm
  · simp

theorem losses_prefix_addLoss (g : Gathered) (origin typeText : String) :
    g.losses <+: (g.addLoss origin typeText).losses := by
  unfold addLoss
  dsimp only
  split
  · exact List.prefix_refl _
  · exact List.prefix_append _ _

/-- Losses are only added. -/
theorem losses_resolvePlain {g g' : Gathered} {origin typeText : String} {t : TypeExpr}
    {r : Resolved} (h : g.resolvePlain mode origin typeText t = .ok (r, g')) :
    g.losses <+: g'.losses := by
  simp only [resolvePlain] at h
  split at h
  · cases h
    exact List.prefix_refl _
  · rename_i text memo _
    cases h
    have hp := losses_prefix_addLoss { g with memo } origin text
    exact hp
  · cases h

/-- A type without parts adds no shape. -/
theorem shapes_resolvePlain {g g' : Gathered} {origin typeText : String} {t : TypeExpr}
    {r : Resolved} (h : g.resolvePlain mode origin typeText t = .ok (r, g')) :
    g'.shapes = g.shapes := by
  simp only [resolvePlain] at h
  split at h
  · cases h
    rfl
  · cases h
    simp only [addLoss]
    split <;> rfl
  · cases h

/-- Unless it adds a loss, a type without parts resolves as its tree does. -/
theorem resolvePlain_spec {g g' : Gathered} {origin typeText : String} {t : TypeExpr}
    {r : Resolved} (hs : g.Sound mode) (hl : g'.losses = [])
    (h : g.resolvePlain mode origin typeText t = .ok (r, g')) :
    g'.Sound mode ∧ g'.shapes = g.shapes ∧ ∃ e, t.base = .elementary e ∧
      (TypeTree.withDims (.elementary e) t.dims).resolve mode g.shapes.keys = some r := by
  obtain ⟨hr, hm⟩ := Memo.resolve_faithful hs.memo t
  simp only [resolvePlain] at h
  split at h
  · rename_i resolved memo he
    cases h
    rw [he] at hr hm
    exact ⟨⟨hm, hs.shapes⟩, rfl, Memo.resolve_fresh hr.symm _⟩
  · cases h
    exact absurd hl (losses_addLoss _ _ _)
  · cases h

end Gathered

section Parameters

variable {origin : String}

/-- The two ways a parameter resolves: on its own, or as a tuple whose parts are interned. -/
theorem resolveParameter_cases {p : Parameter} {g g' : Gathered} {r : Resolved}
    (h : resolveParameter mode origin g p = .ok (r, g')) :
    (∃ e dims, p.typeExpr origin = .ok ⟨.elementary e, dims⟩ ∧
      g.resolvePlain mode origin p.typeText ⟨.elementary e, dims⟩ = .ok (r, g')) ∨
    (∃ dims types g₁ id shapes, p.typeExpr origin = .ok ⟨.tuple, dims⟩ ∧
      resolveParameters mode origin g p.components = .ok (types, g₁) ∧
      g₁.shapes.intern p.nameHint ((p.components.map (·.name)).zip types) origin = (id, shapes) ∧
      r = Resolved.withDims ⟨.tuple id, .struct id,
        ((p.components.map (·.name)).zip types).any fun f => f.2.isDynamic⟩ dims ∧
      g' = { g₁ with shapes }) := by
  obtain ⟨name, typeText, internalType, components, indexed⟩ := p
  simp only [resolveParameter] at h
  split at h
  · cases h
  · rename_i t ht
    obtain ⟨base, dims⟩ := t
    cases base with
    | elementary e => exact .inl ⟨e, dims, ht, h⟩
    | tuple =>
      simp only [TypeExpr.isTuple, decide_true, Bool.not_true, Bool.false_eq_true,
        ↓reduceIte] at h
      split at h
      · cases h
      · rename_i types g₁ hc
        cases h
        exact .inr ⟨dims, types, g₁, _, _, ht, hc, rfl, rfl, rfl⟩

/-- The first parameter is resolved before the others, which know its shapes. -/
theorem resolveParameters_cons {p : Parameter} {ps : List Parameter} {g g' : Gathered}
    {rs : List Resolved} (h : resolveParameters mode origin g (p :: ps) = .ok (rs, g')) :
    ∃ r g₁ rest, resolveParameter mode origin g p = .ok (r, g₁) ∧
      resolveParameters mode origin g₁ ps = .ok (rest, g') ∧ rs = r :: rest := by
  simp only [resolveParameters] at h
  split at h
  · cases h
  · rename_i r g₁ hr
    split at h
    · cases h
    · rename_i rest g₂ hrest
      cases h
      exact ⟨r, g₁, rest, hr, hrest, rfl⟩

mutual

/-- Losses are only ever added. -/
theorem losses_resolveParameter {g g' : Gathered} {r : Resolved} :
    (p : Parameter) → resolveParameter mode origin g p = .ok (r, g') → g.losses <+: g'.losses
  | ⟨name, typeText, internalType, components, indexed⟩, h => by
    rcases resolveParameter_cases h with
      ⟨e, dims, _, hp⟩ | ⟨dims, types, g₁, id, shapes, _, hc, _, _, rfl⟩
    · exact Gathered.losses_resolvePlain hp
    · have hc' : g.losses <+: g₁.losses := losses_resolveParameters components hc
      exact hc'

theorem losses_resolveParameters {g g' : Gathered} {rs : List Resolved} :
    (ps : List Parameter) → resolveParameters mode origin g ps = .ok (rs, g') →
      g.losses <+: g'.losses
  | [], h => by
    cases h
    exact List.prefix_refl _
  | p :: ps, h => by
    obtain ⟨r, g₁, rest, hr, hrest, _⟩ := resolveParameters_cons h
    exact (losses_resolveParameter p hr).trans (losses_resolveParameters ps hrest)

end

mutual

/-- A parameter resolves to the form that its tree has among the shapes then known. -/
theorem resolveParameter_spec {g g' : Gathered} {r : Resolved} :
    (p : Parameter) → g.Sound mode → g'.losses = [] →
      resolveParameter mode origin g p = .ok (r, g') →
      g'.Sound mode ∧ g.Keeps g' ∧
        ∃ t, p.tree = some t ∧ t.resolve mode g'.shapes.keys = some r
  | ⟨name, typeText, internalType, components, indexed⟩, hs, hl, h => by
    rcases resolveParameter_cases h with
      ⟨e, dims, ht, hp⟩ | ⟨dims, types, g₁, id, shapes, ht, hc, hi, rfl, rfl⟩
    · obtain ⟨hs', hk, e', he, hr⟩ := Gathered.resolvePlain_spec hs hl hp
      cases he
      refine ⟨hs', .of_shapes hk, _, Parameter.tree_elementary ht, ?_⟩
      rw [hk]
      exact hr
    · have hl₁ : g₁.losses = [] := hl
      obtain ⟨hs₁, hk₁, parts, hp, hf⟩ := resolveParameters_spec components hs hl₁ hc
      -- The parts resolved before the tuple was interned; interning moves none of their shapes.
      obtain ⟨hk, hid⟩ := ShapeTable.intern_spec hi
      refine ⟨⟨hs₁.memo, hs₁.shapes.intern hf hi⟩, hk₁.trans hk, _,
        by rw [Parameter.tree_tuple ht, hp]; rfl, ?_⟩
      rw [TypeTree.resolve_withDims, TypeTree.resolve_tuple.mpr
        ⟨_, id, TypeTree.resolveParts_prefix hk parts hf, hid, rfl⟩]
      rfl

/-- Without a loss parameters resolve to what their trees say. -/
theorem resolveParameters_spec {g g' : Gathered} {rs : List Resolved} :
    (ps : List Parameter) → g.Sound mode → g'.losses = [] →
      resolveParameters mode origin g ps = .ok (rs, g') →
      g'.Sound mode ∧ g.Keeps g' ∧ ∃ parts, Parameter.parts ps = some parts ∧
        TypeTree.resolveParts mode g'.shapes.keys parts = some ((ps.map (·.name)).zip rs)
  | [], hs, _, h => by
    cases h
    exact ⟨hs, .refl g, [], rfl, rfl⟩
  | p :: ps, hs, hl, h => by
    obtain ⟨r, g₁, rest, hr, hrest, rfl⟩ := resolveParameters_cons h
    have hl₁ : g₁.losses = [] :=
      List.prefix_nil.mp (hl ▸ losses_resolveParameters ps hrest)
    obtain ⟨hs₁, hk₁, t, ht, htr⟩ := resolveParameter_spec p hs hl₁ hr
    obtain ⟨hs', hk, parts, hp, hf⟩ := resolveParameters_spec ps hs₁ hl hrest
    exact ⟨hs', hk₁.trans hk, _, Parameter.parts_cons ht hp, TypeTree.resolveParts_cons.mpr
      ⟨r, _, TypeTree.resolve_prefix hk t htr, hf, rfl⟩⟩

end

theorem length_resolveParameters {ps : List Parameter} {g g' : Gathered} {rs : List Resolved}
    (h : resolveParameters mode origin g ps = .ok (rs, g')) : rs.length = ps.length := by
  induction ps generalizing g rs with
  | nil =>
    cases h
    rfl
  | cons p ps ih =>
    obtain ⟨_, g₁, rest, _, hrest, rfl⟩ := resolveParameters_cons h
    simp [ih hrest]

end Parameters

/-- Parameters with the forms that their trees have among the shapes known. -/
structure Settled (mode : Representation) (keys : List ShapeKey) (ps : List Parameter)
    (types : List Resolved) : Prop where
  length : types.length = ps.length
  resolved : ∃ parts, Parameter.parts ps = some parts ∧
    TypeTree.resolveParts mode keys parts = some ((ps.map (·.name)).zip types)

theorem Settled.zip_types {keys : List ShapeKey} {ps : List Parameter} {types : List Resolved}
    (h : Settled mode keys ps types) : ((ps.map (·.name)).zip types).map (·.2) = types :=
  List.map_snd_zip (by simp [h.length])

theorem Settled.mono {keys keys' : List ShapeKey} {ps : List Parameter} {types : List Resolved}
    (h : Settled mode keys ps types) (hk : keys <+: keys') : Settled mode keys' ps types := by
  obtain ⟨parts, hp, hf⟩ := h.resolved
  exact ⟨h.length, parts, hp, TypeTree.resolveParts_prefix hk parts hf⟩

theorem resolveParameters_settled {origin : String} {ps : List Parameter} {g g' : Gathered}
    {types : List Resolved} (hs : g.Sound mode) (hl : g'.losses = [])
    (h : resolveParameters mode origin g ps = .ok (types, g')) :
    g'.Sound mode ∧ g.Keeps g' ∧ Settled mode g'.shapes.keys ps types := by
  obtain ⟨hs', hk, hr⟩ := resolveParameters_spec ps hs hl h
  exact ⟨hs', hk, length_resolveParameters h, hr⟩

end AbiBindings
