import AbiBindings.Proofs.CoinedNames
import AbiBindings.Proofs.WordText

namespace AbiBindings

def IsWord (s : String) : Prop := ∀ c ∈ s.toList, Text.isWordChar c = true

instance (s : String) : Decidable (IsWord s) :=
  List.decidableBAll (fun c => Text.isWordChar c = true) s.toList

section Words

variable {a b : String}

@[simp] theorem isWord_append : IsWord (a ++ b) ↔ IsWord a ∧ IsWord b := by
  simp only [IsWord, String.toList_append, List.forall_mem_append]

theorem isWord_ofList {cs : List Char} : IsWord (String.ofList cs) ↔
    ∀ c ∈ cs, Text.isWordChar c = true := by
  simp only [IsWord, String.toList_ofList]

theorem IsAsciiWord.isWord {s : String} (h : IsAsciiWord s) : IsWord s := by
  intro c hc
  have hascii := h c hc
  simp only [Text.isAsciiWordChar, Bool.or_eq_true] at hascii
  simp only [Text.isWordChar, Bool.or_eq_true]
  exact .inl hascii

@[simp] theorem isWord_repr (n : Nat) : IsWord n.repr := (isAsciiWord_repr n).isWord

end Words

namespace Text

theorem isWord_snakeCase (s : String) : IsWord (snakeCase s) := by
  rw [snakeCase, isWord_ofList]
  refine forall_mem_intercalate (List.all_eq_true.mp (by decide)) ?_
  intro lowered hl
  obtain ⟨w, hw, rfl⟩ := List.mem_map.mp hl
  exact isWordChar_lowercaseWord fun c hc =>
    isWordChar_of_isAlphanumeric (isAlphanumeric_of_mem_words hw c hc)

theorem isWord_upperCamelCase (s : String) : IsWord (upperCamelCase s) := by
  rw [upperCamelCase, isWord_ofList]
  intro c hc
  obtain ⟨w, hw, hc⟩ := List.mem_flatMap.mp hc
  exact isWordChar_capitalizeWord
    (fun c hc => isWordChar_of_isAlphanumeric (isAlphanumeric_of_mem_words hw c hc)) c hc

end Text

namespace Naming

/-- The underscore that keeps a name apart from keywords. -/
theorem isWord_unless_keyword {name : String} (h : IsWord name) :
    IsWord (if isKeyword name then name ++ "_" else name) := by
  split
  · exact isWord_append.mpr ⟨h, by decide⟩
  · exact h

theorem isWord_escape {name : String} (h : IsWord name) : IsWord (escape name) := by
  cases hc : name.toList with
  | nil =>
    simp only [escape, hc]
    exact isWord_unless_keyword h
  | cons c cs =>
    simp only [escape, hc]
    refine isWord_unless_keyword ?_
    split
    · exact isWord_append.mpr ⟨by decide, h⟩
    · exact h

/-- Whatever the raw name, an identifier is a word. -/
theorem isWord_valueIdent (raw : String) {fallback : String} (h : IsWord fallback) :
    IsWord (valueIdent raw fallback) := by
  simp only [valueIdent]
  split
  · exact h
  · exact isWord_escape (Text.isWord_snakeCase raw)

theorem isWord_typeIdent (raw : String) {fallback : String} (h : IsWord fallback) :
    IsWord (typeIdent raw fallback) := by
  have hname : ∀ name, IsWord name → IsWord (if name = "" then fallback else escape name) := by
    intro name hn
    split
    · exact h
    · exact isWord_escape hn
  simp only [typeIdent]
  refine hname _ ?_
  split
  · rename_i ht
    exact (isTypeLike_ascii ht).1.isWord
  · exact Text.isWord_upperCamelCase raw

end Naming

end AbiBindings
