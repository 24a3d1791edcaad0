import Mathlib.Data.List.Basic
import Mathlib.Data.List.Forall2

namespace AbiBindings

theorem except_map_ok {ε α β : Type} {f : α → β} {x : Except ε α} {b : β} :
    x.map f = .ok b ↔ ∃ a, x = .ok a ∧ f a = b := by
  cases x <;> simp [Except.map]

/-- What is known of a projection is known of what is computed from it. -/
theorem map_of_map {α β γ : Type} {g : α → β} {xs : List α} {ys : List β} (h : xs.map g = ys)
    (f : β → γ) : (xs.map fun x => f (g x)) = ys.map f := by
  rw [← h, List.map_map]
  rfl

theorem eraseDups_concat {α : Type} [DecidableEq α] (xs : List α) (c : α) :
    (xs ++ [c]).eraseDups = xs.eraseDups ++ if c ∈ xs then [] else [c] := by
  rw [List.eraseDups_append]
  by_cases hc : c ∈ xs
  · simp [List.removeAll, hc]
  · simp [List.removeAll, hc, List.eraseDups_cons]

/-- A property of all signs of a joined text, from its pieces and the separator. -/
theorem forall_mem_intercalate {α : Type} {P : α → Prop} {separator : List α} {xs : List (List α)}
    (hs : ∀ c ∈ separator, P c) (h : ∀ x ∈ xs, ∀ c ∈ x, P c) :
    ∀ c ∈ separator.intercalate xs, P c := by
  induction xs with
  | nil => simp
  | cons x xs ih =>
    obtain ⟨hx, hxs⟩ := List.forall_mem_cons.mp h
    cases xs with
    | nil => simpa using hx
    | cons y ys =>
      rw [List.intercalate_cons_cons]
      simp only [List.forall_mem_append]
      exact ⟨⟨hx, hs⟩, ih hxs⟩

theorem forall₂_getElem? {α β : Type} {P : α → β → Prop} {xs : List α} {ys : List β} {i : Nat}
    {x : α} (h : List.Forall₂ P xs ys) (hx : xs[i]? = some x) : ∃ y, ys[i]? = some y ∧ P x y := by
  obtain ⟨hi, rfl⟩ := List.getElem?_eq_some_iff.mp hx
  have hi' : i < ys.length := h.length_eq ▸ hi
  exact ⟨ys[i], List.getElem?_eq_getElem hi', h.get hi hi'⟩

theorem digits_inj {m n : Nat} (h : Nat.toDigits 10 m = Nat.toDigits 10 n) : m = n := by
  have he := congrArg (fun ds => Nat.ofDigitChars 10 ds 0) h
  simpa using he

theorem labelled_injective {label : String} {i j : Nat}
    (h : label ++ toString i = label ++ toString j) : i = j := by
  rw [String.append_right_inj] at h
  exact digits_inj (by simpa using congrArg String.toList h)

/-- A text is cut in one way only at the first sign of a kind. -/
theorem cut_unique {c : Char} {xs ys rest rest' : List Char} (hx : c ∉ xs) (hy : c ∉ ys)
    (h : xs ++ c :: rest = ys ++ c :: rest') : xs = ys ∧ rest = rest' := by
  induction xs generalizing ys with
  | nil =>
    cases ys with
    | nil => simpa using h
    | cons y ys =>
      simp only [List.nil_append, List.cons_append, List.cons.injEq] at h
      exact absurd (by simp [h.1]) hy
  | cons x xs ih =>
    cases ys with
    | nil =>
      simp only [List.nil_append, List.cons_append, List.cons.injEq] at h
      exact absurd (by simp [h.1]) hx
    | cons y ys =>
      simp only [List.cons_append, List.cons.injEq] at h
      simp only [List.mem_cons, not_or] at hx hy
      obtain ⟨ht, hr⟩ := ih hx.2 hy.2 h.2
      exact ⟨by rw [h.1, ht], hr⟩

theorem not_mem_digits {c : Char} (hc : c.isDigit = false) (n : Nat) :
    c ∉ Nat.toDigits 10 n := by
  intro hm
  have hd := Nat.isDigit_of_mem_toDigits (by decide) (by decide) hm
  rw [hc] at hd
  contradiction

end AbiBindings
