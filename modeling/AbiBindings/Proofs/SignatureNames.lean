import AbiBindings.Proofs.TypeText
import AbiBindings.Proofs.TypeTree

namespace AbiBindings

/-- Every parenthesis that is opened in the text is closed in it, and none before it is opened. -/
structure Balanced (text : List Char) : Prop where
  even : text.count '(' = text.count ')'
  opened : ∀ start, start <+: text → start.count ')' ≤ start.count '('

namespace Balanced

variable {text text' : List Char}

theorem plain (ho : '(' ∉ text) (hc : ')' ∉ text) : Balanced text := by
  refine ⟨by rw [List.count_eq_zero.mpr ho, List.count_eq_zero.mpr hc], ?_⟩
  intro start hs
  rw [List.count_eq_zero.mpr fun hm => hc (hs.subset hm)]
  exact Nat.zero_le _

theorem append (h : Balanced text) (h' : Balanced text') : Balanced (text ++ text') := by
  refine ⟨by rw [List.count_append, List.count_append, h.even, h'.even], ?_⟩
  rintro start ⟨rest, he⟩
  rcases List.append_eq_append_iff.mp he with ⟨part, ht, _⟩ | ⟨part, rfl, ht⟩
  · exact h.opened start ⟨part, ht.symm⟩
  · rw [List.count_append, List.count_append, h.even]
    exact Nat.add_le_add_left (h'.opened part ⟨rest, ht.symm⟩) _

theorem enclosed (h : Balanced text) : Balanced ('(' :: (text ++ [')'])) := by
  have hcount : ('(' :: (text ++ [')'])).count '(' = ('(' :: (text ++ [')'])).count ')' := by
    simp [h.even]
  refine ⟨hcount, ?_⟩
  intro start hs
  rcases List.prefix_cons_iff.mp hs with rfl | ⟨inner, rfl, hinner⟩
  · exact Nat.le_refl _
  · rcases List.prefix_concat_iff.mp hinner with rfl | hinner
    · exact Nat.le_of_eq hcount.symm
    · have hle := h.opened inner hinner
      simp only [List.count_cons, beq_self_eq_true, ↓reduceIte, Char.reduceBEq,
        Bool.false_eq_true]
      omega

theorem intercalate {separator : List Char} (hs : Balanced separator) {texts : List (List Char)}
    (h : ∀ text ∈ texts, Balanced text) : Balanced (separator.intercalate texts) := by
  induction texts with
  | nil => exact .plain (by simp) (by simp)
  | cons text texts ih =>
    have hrest := ih fun text hm => h text (List.mem_cons_of_mem _ hm)
    have hfirst := h text List.mem_cons_self
    cases texts with
    | nil => simpa using hfirst
    | cons text' texts =>
      rw [List.intercalate_cons_cons]
      exact (hfirst.append hs).append hrest

/-- Two open parentheses that balanced text follows up to the same end are one. -/
theorem start_eq_nil (h : Balanced text) (h' : Balanced text') {extra : List Char}
    (he : '(' :: text = extra ++ '(' :: text') : extra = [] := by
  cases extra with
  | nil => rfl
  | cons c start =>
    -- The later of the two parentheses would be opened in the text and not closed.
    rw [List.cons_append, List.cons.injEq] at he
    obtain ⟨_, rfl⟩ := he
    have heven := h.even
    have hopened := h.opened start (List.prefix_append _ _)
    simp only [List.count_append, List.count_cons, h'.even, beq_self_eq_true, ↓reduceIte,
      Char.reduceBEq, Bool.false_eq_true] at heven
    omega

/-- A text is cut in one way only at an open parenthesis that balanced text follows. -/
theorem cut_unique (h : Balanced text) (h' : Balanced text') {start start' : List Char}
    (he : start ++ '(' :: text = start' ++ '(' :: text') : start = start' := by
  rcases List.append_eq_append_iff.mp he with ⟨extra, rfl, ht⟩ | ⟨extra, rfl, ht⟩
  · rw [h.start_eq_nil h' ht, List.append_nil]
  · rw [h'.start_eq_nil h ht, List.append_nil]

end Balanced

theorem Elementary.balanced_text (e : Elementary) : Balanced e.text.toList := by
  cases e <;> exact .plain (by simp [text, not_mem_digits]) (by simp [text, not_mem_digits])

theorem TypeExpr.balanced_dimText (d : Option Nat) : Balanced (dimText d).toList := by
  rw [toList_dimText]
  cases d <;>
    exact .plain (by simp [lengthDigits, not_mem_digits]) (by simp [lengthDigits, not_mem_digits])

namespace TypeTree

theorem balanced_list {texts : List String} (h : ∀ text ∈ texts, Balanced text.toList) :
    Balanced (",".intercalate texts).toList := by
  rw [String.toList_intercalate]
  refine .intercalate (.plain (by decide) (by decide)) ?_
  intro text ht
  obtain ⟨s, hs, rfl⟩ := List.mem_map.mp ht
  exact h s hs

mutual

/-- The canonical spelling of a type is balanced. -/
theorem balanced_text : (t : TypeTree) → Balanced t.text.toList
  | .elementary e => e.balanced_text
  | .array t n => by
    rw [text, String.toList_append]
    exact (balanced_text t).append (TypeExpr.balanced_dimText n)
  | .tuple parts => by
    rw [text, String.toList_append, String.toList_append]
    exact (balanced_list (balanced_texts parts)).enclosed

theorem balanced_texts :
    (parts : List (String × TypeTree)) → ∀ s ∈ texts parts, Balanced s.toList
  | [] => by simp [texts]
  | (name, t) :: parts => by
    intro s hs
    rcases List.mem_cons.mp hs with rfl | hs
    · exact balanced_text t
    · exact balanced_texts parts s hs

end

end TypeTree

/-- A signature can be read with one name only. -/
theorem signature_name_unique {name name' origin origin' sig : String} {ps ps' : List Parameter}
    (h : signature name ps origin = .ok sig) (h' : signature name' ps' origin' = .ok sig) :
    name = name' := by
  obtain ⟨parts, _, hsig⟩ := signature_ok h
  obtain ⟨parts', _, hsig'⟩ := signature_ok h'
  have hb := TypeTree.balanced_list (TypeTree.balanced_texts parts)
  have hb' := TypeTree.balanced_list (TypeTree.balanced_texts parts')
  have hcut := hsig.symm.trans hsig'
  rw [String.append_left_inj, ← String.toList_inj] at hcut
  simp only [String.toList_append, List.append_assoc] at hcut
  exact String.toList_inj.mp (hb.cut_unique hb' hcut)

end AbiBindings
