import AbiBindings.Proofs.Basic
import AbiBindings.TypeExpr.Basic

namespace AbiBindings

theorem Elementary.text_injective {e e' : Elementary} (h : e.text = e'.text) : e = e' := by
  have hl := congrArg String.toList h
  cases e <;> cases e' <;> simp [Elementary.text] at hl
  all_goals first
    | rfl
    | rw [digits_inj hl]

theorem Base.text_injective {a a' : Base} (h : a.text = a'.text) : a = a' := by
  have hl := congrArg String.toList h
  cases a with
  | elementary e =>
    cases a' with
    | elementary e' => rw [Elementary.text_injective h]
    | tuple => cases e <;> simp [Base.text, Elementary.text] at hl
  | tuple =>
    cases a' with
    | elementary e' => cases e' <;> simp [Base.text, Elementary.text] at hl
    | tuple => rfl

/-- Brackets only come with array dimensions. -/
theorem Base.bracket_not_mem_text (a : Base) : '[' ∉ a.text.toList := by
  cases a with
  | elementary e => cases e <;> simp [Base.text, Elementary.text, not_mem_digits]
  | tuple => simp [Base.text]

namespace TypeExpr

def lengthDigits : Option Nat → List Char
  | some n => Nat.toDigits 10 n
  | none => []

theorem toList_dimText (d : Option Nat) :
    (dimText d).toList = '[' :: (lengthDigits d ++ [']']) := by
  cases d <;> simp [dimText, lengthDigits]

theorem lengthDigits_injective {d d' : Option Nat} (h : lengthDigits d = lengthDigits d') :
    d = d' := by
  cases d with
  | none =>
    cases d' with
    | none => rfl
    | some n => simp [lengthDigits] at h
  | some m =>
    cases d' with
    | none => simp [lengthDigits] at h
    | some n => rw [digits_inj h]

theorem bracket_not_mem_lengthDigits (d : Option Nat) : ']' ∉ lengthDigits d := by
  cases d <;> simp [lengthDigits, not_mem_digits]

def dimChars (dims : List (Option Nat)) : List Char :=
  dims.flatMap fun d => '[' :: (lengthDigits d ++ [']'])

theorem toList_suffix (t : TypeExpr) : t.suffix.toList = dimChars t.dims := by
  simp [suffix, dimChars, List.flatMap_map, toList_dimText]

theorem dimChars_nil : dimChars [] = [] := rfl

theorem dimChars_cons (d : Option Nat) (dims : List (Option Nat)) :
    dimChars (d :: dims) = '[' :: (lengthDigits d ++ ']' :: dimChars dims) := by
  simp [dimChars]

theorem dimChars_injective {dims dims' : List (Option Nat)} (h : dimChars dims = dimChars dims') :
    dims = dims' := by
  induction dims generalizing dims' with
  | nil =>
    cases dims' with
    | nil => rfl
    | cons d' dims' => simp [dimChars] at h
  | cons d dims ih =>
    cases dims' with
    | nil => simp [dimChars] at h
    | cons d' dims' =>
      simp only [dimChars_cons, List.cons.injEq, true_and] at h
      obtain ⟨hd, hr⟩ := cut_unique (bracket_not_mem_lengthDigits d)
        (bracket_not_mem_lengthDigits d') h
      rw [lengthDigits_injective hd, ih hr]

/-- No two types share their canonical spelling. -/
theorem text_inj {t t' : TypeExpr} (h : t.text = t'.text) : t = t' := by
  obtain ⟨base, dims⟩ := t
  obtain ⟨base', dims'⟩ := t'
  have hl := congrArg String.toList h
  simp only [text, String.toList_append, toList_suffix] at hl
  have hb := base.bracket_not_mem_text
  have hb' := base'.bracket_not_mem_text
  cases dims with
  | nil =>
    cases dims' with
    | nil =>
      have hc : base.text.toList = base'.text.toList := by simpa [dimChars] using hl
      rw [Base.text_injective (String.toList_inj.mp hc)]
    | cons d' dims' =>
      rw [dimChars_cons, dimChars_nil, List.append_nil] at hl
      rw [hl] at hb
      exact absurd (List.mem_append_right _ List.mem_cons_self) hb
  | cons d dims =>
    cases dims' with
    | nil =>
      rw [dimChars_cons, dimChars_nil, List.append_nil] at hl
      rw [← hl] at hb'
      exact absurd (List.mem_append_right _ List.mem_cons_self) hb'
    | cons d' dims' =>
      have hcut := hl
      rw [dimChars_cons, dimChars_cons] at hcut
      obtain ⟨hc, _⟩ := cut_unique hb hb' hcut
      rw [hc] at hl
      rw [Base.text_injective (String.toList_inj.mp hc),
        dimChars_injective (List.append_cancel_left hl)]

end TypeExpr

end AbiBindings
