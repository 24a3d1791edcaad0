import AbiBindings.Proofs.Basic
import AbiBindings.Signature

namespace AbiBindings

/-- A type with its tuples written out, whatever ids they have and however it was spelled. -/
inductive TypeTree where
  | elementary (e : Elementary)
  | array (element : TypeTree) (length : Option Nat)
  | tuple (parts : List (String × TypeTree))

namespace TypeTree

/-- Array dimensions wrap an element from the inside out. -/
def withDims (t : TypeTree) (dims : List (Option Nat)) : TypeTree := dims.foldl array t

mutual

/-- The spelling that signatures use. The names of the parts do not show. -/
def text : TypeTree → String
  | .elementary e => e.text
  | .array t n => t.text ++ TypeExpr.dimText n
  | .tuple parts => "(" ++ ",".intercalate (texts parts) ++ ")"

def texts : List (String × TypeTree) → List String
  | [] => []
  | (_, t) :: parts => t.text :: texts parts

end

theorem text_withDims (t : TypeTree) (dims : List (Option Nat)) :
    (t.withDims dims).text = t.text ++ String.join (dims.map TypeExpr.dimText) := by
  induction dims generalizing t with
  | nil => simp [withDims]
  | cons d dims ih =>
    change ((t.array d).withDims dims).text = _
    rw [ih]
    simp [text, String.append_assoc]

end TypeTree

mutual

/-- What a parameter's type says, if it can be read. A tuple must have parts. -/
def Parameter.tree : Parameter → Option TypeTree
  | ⟨_, typeText, _, components, _⟩ =>
    match TypeExpr.parse typeText with
    | .error _ => none
    | .ok ⟨.elementary e, dims⟩ => some (.withDims (.elementary e) dims)
    | .ok ⟨.tuple, dims⟩ =>
      if components.isEmpty then none
      else (Parameter.parts components).map fun parts => .withDims (.tuple parts) dims

def Parameter.parts : List Parameter → Option (List (String × TypeTree))
  | [] => some []
  | p :: ps =>
    match p.tree, Parameter.parts ps with
    | some t, some parts => some ((p.name, t) :: parts)
    | _, _ => none

end

namespace Parameter

/-- The type of a parameter is the one its text spells, and a tuple has parts. -/
theorem typeExpr_ok {origin : String} {p : Parameter} {t : TypeExpr}
    (h : p.typeExpr origin = .ok t) :
    TypeExpr.parse p.typeText = .ok t ∧ (t.base = .tuple → p.components.isEmpty = false) := by
  unfold typeExpr at h
  split at h
  · cases h
  · rename_i t' ht
    split at h
    · cases h
    · rename_i hn
      cases h
      refine ⟨ht, ?_⟩
      intro hb
      cases hc : p.components.isEmpty with
      | false => rfl
      | true => exact absurd ⟨by simp [TypeExpr.isTuple, hb], hc⟩ hn

theorem tree_elementary {origin : String} {p : Parameter} {e : Elementary}
    {dims : List (Option Nat)} (h : p.typeExpr origin = .ok ⟨.elementary e, dims⟩) :
    p.tree = some (.withDims (.elementary e) dims) := by
  obtain ⟨hp, _⟩ := typeExpr_ok h
  obtain ⟨name, typeText, internalType, components, indexed⟩ := p
  simp only [tree, hp]

theorem tree_tuple {origin : String} {p : Parameter} {dims : List (Option Nat)}
    (h : p.typeExpr origin = .ok ⟨.tuple, dims⟩) :
    p.tree = (Parameter.parts p.components).map fun parts => .withDims (.tuple parts) dims := by
  obtain ⟨hp, hc⟩ := typeExpr_ok h
  obtain ⟨name, typeText, internalType, components, indexed⟩ := p
  simp only at hp hc
  simp only [tree, hp, hc, Bool.false_eq_true, ↓reduceIte]

theorem parts_cons {p : Parameter} {ps : List Parameter} {t : TypeTree}
    {parts : List (String × TypeTree)} (ht : p.tree = some t)
    (hps : Parameter.parts ps = some parts) :
    Parameter.parts (p :: ps) = some ((p.name, t) :: parts) := by
  simp only [Parameter.parts, ht, hps]

mutual

/-- The canonical spelling is that of the tree. -/
theorem canonical_ok {origin : String} {s : String} :
    (p : Parameter) → p.canonical origin = .ok s → ∃ t, p.tree = some t ∧ t.text = s
  | ⟨name, typeText, internalType, components, indexed⟩, h => by
    simp only [canonical] at h
    split at h
    · cases h
    · rename_i t ht
      obtain ⟨base, dims⟩ := t
      cases base with
      | elementary e =>
        refine ⟨_, tree_elementary ht, ?_⟩
        simp only [TypeExpr.isTuple, reduceCtorEq, decide_false, Bool.false_eq_true, ↓reduceIte,
          Except.ok.injEq] at h
        rw [TypeTree.text_withDims, ← h]
        rfl
      | tuple =>
        simp only [TypeExpr.isTuple, decide_true, ↓reduceIte] at h
        obtain ⟨parts, hp, hs⟩ := except_map_ok.mp h
        obtain ⟨trees, ht', hx⟩ := canonicals_ok components hp
        refine ⟨.withDims (.tuple trees) dims, by rw [tree_tuple ht, ht']; rfl, ?_⟩
        rw [TypeTree.text_withDims, TypeTree.text, hx, ← hs]
        rfl

/-- Canonical texts are those of the trees. -/
theorem canonicals_ok {origin : String} {texts : List String} :
    (ps : List Parameter) → canonicals origin ps = .ok texts →
      ∃ parts, Parameter.parts ps = some parts ∧ TypeTree.texts parts = texts
  | [], h => by
    simp only [canonicals, Except.ok.injEq] at h
    exact ⟨[], rfl, h⟩
  | p :: ps, h => by
    simp only [canonicals] at h
    split at h
    · cases h
    · rename_i s hs
      obtain ⟨rest, hr, ht⟩ := except_map_ok.mp h
      obtain ⟨t, hp, hx⟩ := canonical_ok p hs
      obtain ⟨parts, hps, hxs⟩ := canonicals_ok ps hr
      exact ⟨_, parts_cons hp hps, by rw [TypeTree.texts, hx, hxs, ht]⟩

end

end Parameter

/-- A signature is spelled from the trees of its parameters. -/
theorem signature_ok {name origin sig : String} {ps : List Parameter}
    (h : signature name ps origin = .ok sig) :
    ∃ parts, Parameter.parts ps = some parts ∧
      sig = name ++ "(" ++ ",".intercalate (TypeTree.texts parts) ++ ")" := by
  obtain ⟨texts, ht, hs⟩ := except_map_ok.mp h
  obtain ⟨parts, hp, hx⟩ := Parameter.canonicals_ok ps ht
  exact ⟨parts, hp, by rw [hx, hs]⟩

end AbiBindings
