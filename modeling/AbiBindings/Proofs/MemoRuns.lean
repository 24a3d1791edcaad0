import AbiBindings.Proofs.Memo

namespace AbiBindings.Memo

variable {mode : Representation} {memo : Memo} {before : List TypeExpr}

def resolveAll (mode : Representation) (memo : Memo) :
    List TypeExpr → List (Except ResolveFault Resolved) × Memo
  | [] => ([], memo)
  | t :: ts =>
    let (result, memo) := memo.resolve mode t
    let (results, memo) := resolveAll mode memo ts
    (result :: results, memo)

/-- What is remembered after some types: every one of them that resolves by itself, with what it
resolves to, and each spelling once. Nothing is remembered of those that fail. -/
structure Remembers (mode : Representation) (memo : Memo) (ts : List TypeExpr) : Prop where
  once : (memo.map (·.1)).Nodup
  entries : ∀ key r, (key, r) ∈ memo ↔
    ∃ t ∈ ts, t.text = key ∧ (Memo.resolve mode [] t).1 = .ok r

theorem Remembers.nil : Remembers mode [] [] := ⟨.nil, by simp⟩

theorem Remembers.faithful (h : memo.Remembers mode before) : memo.Faithful mode := by
  intro key r hm
  obtain ⟨t, _, hkey, hr⟩ := (h.entries key r).mp hm
  exact ⟨t, hkey.symm, hr⟩

/-- Resolving leaves what is remembered as it is, or adds the type under a spelling that is new. -/
theorem resolve_cases (mode : Representation) (memo : Memo) (t : TypeExpr) :
    ((memo.resolve mode t).2 = memo ∧
      ∀ r, (memo.resolve mode t).1 = .ok r → (t.text, r) ∈ memo) ∨
    ∃ r, memo.resolve mode t = (.ok r, (t.text, r) :: memo) ∧ t.text ∉ memo.map (·.1) := by
  obtain ⟨base, dims⟩ := t
  cases base with
  | tuple => exact .inl ⟨rfl, fun r h => by cases h⟩
  | elementary e =>
    cases hl : memo.lookup (TypeExpr.text ⟨.elementary e, dims⟩) with
    | some found =>
      simp only [resolve, hl, true_and]
      refine .inl fun r hr => ?_
      cases hr
      exact mem_of_lookup hl
    | none =>
      cases ht : mode.target e with
      | none =>
        simp only [resolve, hl, ht, true_and]
        exact .inl fun r h => by cases h
      | some target =>
        simp only [resolve, hl, ht]
        refine .inr ⟨_, rfl, ?_⟩
        intro hm
        obtain ⟨entry, hentry, he⟩ := List.mem_map.mp hm
        have hnone := List.lookup_eq_none_iff.mp hl entry hentry
        simp [he] at hnone

/-- One more type is answered as with nothing remembered, and is remembered when it resolves. -/
theorem Remembers.resolve (h : memo.Remembers mode before) (t : TypeExpr) :
    (memo.resolve mode t).1 = (Memo.resolve mode [] t).1 ∧
      (memo.resolve mode t).2.Remembers mode (before ++ [t]) := by
  obtain ⟨hfresh, _⟩ := resolve_faithful h.faithful t
  have hsplit : ∀ key r, (∃ t' ∈ before ++ [t], t'.text = key ∧
      (Memo.resolve mode [] t').1 = .ok r) ↔
      (key, r) ∈ memo ∨ t.text = key ∧ (Memo.resolve mode [] t).1 = .ok r := by
    intro key r
    simp [h.entries, or_and_right, exists_or]
  refine ⟨hfresh, ?_⟩
  rcases resolve_cases mode memo t with ⟨hmemo, hknown⟩ | ⟨r, hr, hnew⟩
  · rw [hmemo]
    refine ⟨h.once, fun key r => ?_⟩
    rw [hsplit]
    constructor
    · exact .inl
    · rintro (hm | ⟨rfl, ht⟩)
      · exact hm
      · exact hknown r (hfresh.trans ht)
  · rw [hr] at hfresh ⊢
    refine ⟨List.nodup_cons.mpr ⟨hnew, h.once⟩, fun key r' => ?_⟩
    rw [hsplit, ← hfresh, List.mem_cons, Prod.mk.injEq, Except.ok.injEq, or_comm, eq_comm,
      @eq_comm _ r']

/-- Every type resolves as if nothing were remembered, and what is remembered stays right. -/
theorem Remembers.resolveAll (h : memo.Remembers mode before) (ts : List TypeExpr) :
    (memo.resolveAll mode ts).1 = ts.map (fun t => (Memo.resolve mode [] t).1) ∧
      (memo.resolveAll mode ts).2.Remembers mode (before ++ ts) := by
  induction ts generalizing memo before with
  | nil => exact ⟨rfl, by rwa [List.append_nil]⟩
  | cons t ts ih =>
    obtain ⟨hfirst, hstep⟩ := h.resolve t
    obtain ⟨hrest, hrun⟩ := ih hstep
    refine ⟨?_, ?_⟩
    · simp only [Memo.resolveAll, List.map_cons, hfirst, hrest]
    · rwa [List.append_assoc, List.singleton_append] at hrun

/-- However many types are resolved one after another, each is answered as if it were the only one,
and what is remembered in the end is what those that resolve resolve to. -/
theorem resolutions_independent (mode : Representation) (ts : List TypeExpr) :
    (Memo.resolveAll mode [] ts).1 = ts.map (fun t => (Memo.resolve mode [] t).1) ∧
      (Memo.resolveAll mode [] ts).2.Remembers mode ts :=
  Remembers.nil.resolveAll ts

/-- Two spellings of one type, an integer that is too wide, and a tuple. -/
example : (Memo.resolveAll .native [] [⟨.elementary (.uint 256), []⟩, ⟨.elementary .bytes, [none]⟩,
    ⟨.tuple, []⟩, ⟨.elementary .bytes, [none]⟩, ⟨.elementary (.uint 256), []⟩]).2.map (·.1) =
    ["bytes[]"] := by decide

end AbiBindings.Memo
