import AbiBindings.Proofs.Interning
import AbiBindings.Proofs.TypeText
import AbiBindings.Resolution.Memo

namespace AbiBindings

variable {mode : Representation}

/-- Every entry is what its type resolves to with nothing remembered. -/
def Memo.Faithful (mode : Representation) (memo : Memo) : Prop :=
  ∀ key r, (key, r) ∈ memo → ∃ t : TypeExpr, key = t.text ∧ (Memo.resolve mode [] t).1 = .ok r

namespace Memo

theorem mem_of_lookup {memo : Memo} {key : String} {r : Resolved}
    (h : memo.lookup key = some r) : (key, r) ∈ memo := by
  induction memo with
  | nil => simp at h
  | cons entry memo ih =>
    obtain ⟨key', r'⟩ := entry
    simp only [List.lookup_cons] at h
    split at h
    · rename_i he
      cases h
      rw [beq_iff_eq.mp he]
      exact List.mem_cons_self
    · exact List.mem_cons_of_mem _ (ih h)

/-- What was resolved before makes no difference. -/
theorem resolve_faithful {memo : Memo} (hm : memo.Faithful mode) (t : TypeExpr) :
    (memo.resolve mode t).1 = (Memo.resolve mode [] t).1 ∧
      (memo.resolve mode t).2.Faithful mode := by
  obtain ⟨base, dims⟩ := t
  cases base with
  | tuple => exact ⟨rfl, hm⟩
  | elementary e =>
    cases hl : memo.lookup (TypeExpr.text ⟨.elementary e, dims⟩) with
    | some r =>
      obtain ⟨t', hk, hr⟩ := hm _ r (mem_of_lookup hl)
      rw [← TypeExpr.text_inj hk] at hr
      simp only [Memo.resolve, hl]
      exact ⟨hr.symm, hm⟩
    | none =>
      cases ht : mode.target e with
      | none =>
        simp only [Memo.resolve, hl, ht, List.lookup_nil]
        exact ⟨trivial, hm⟩
      | some target =>
        simp only [Memo.resolve, hl, ht, List.lookup_nil, true_and]
        intro key r hmem
        rcases List.mem_cons.mp hmem with he | hmem
        · cases he
          exact ⟨⟨.elementary e, dims⟩, rfl, by simp only [Memo.resolve, ht, List.lookup_nil]⟩
        · exact hm key r hmem

/-- Without anything remembered, a type resolves as its tree does. -/
theorem resolve_fresh {t : TypeExpr} {r : Resolved} (h : (Memo.resolve mode [] t).1 = .ok r)
    (keys : List ShapeKey) :
    ∃ e, t.base = .elementary e ∧
      (TypeTree.withDims (.elementary e) t.dims).resolve mode keys = some r := by
  obtain ⟨base, dims⟩ := t
  cases base with
  | tuple => cases h
  | elementary e =>
    refine ⟨e, rfl, ?_⟩
    cases ht : mode.target e with
    | none => simp only [Memo.resolve, ht, List.lookup_nil, reduceCtorEq] at h
    | some target =>
      simp only [Memo.resolve, ht, List.lookup_nil, Except.ok.injEq] at h
      rw [TypeTree.resolve_withDims, ← h]
      simp only [TypeTree.resolve, ht, Option.map_some]

end Memo

end AbiBindings
