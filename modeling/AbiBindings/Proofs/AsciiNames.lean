import AbiBindings.Proofs.CoinedNames
import AbiBindings.Proofs.WordText
import Mathlib

namespace AbiBindings

def IsAscii (s : String) : Prop := ∀ c ∈ s.toList, c.toNat < 0x80

instance (s : String) : Decidable (IsAscii s) :=
  List.decidableBAll (fun c : Char => c.toNat < 0x80) s.toList

namespace Text

section Letters

variable {c : Char}

/-- What holds for 128 code points holds for every ASCII character. -/
theorem ascii_cases (P : Char → Prop) (h : ∀ n < 0x80, P (Char.ofNat n))
    (hc : c.toNat < 0x80) : P c := by
  have hn := h c.toNat hc
  rwa [Char.ofNat_toNat] at hn

theorem lt_of_isAlphanum (h : c.isAlphanum = true) : c.toNat < 0x80 := by
  simp only [Char.isAlphanum, Char.isAlpha, Char.isUpper, Char.isLower, Char.isDigit,
    Bool.or_eq_true, Bool.and_eq_true, decide_eq_true_eq, UInt32.le_iff_toNat_le] at h
  change c.val.toNat < 0x80
  rcases h with (h | h) | h
  · exact Nat.lt_of_le_of_lt h.2 (by decide)
  · exact Nat.lt_of_le_of_lt h.2 (by decide)
  · exact Nat.lt_of_le_of_lt h.2 (by decide)

theorem lowercase_alphanum (h : c.isAlphanum = true) :
    ∃ d, lowercase c = [d] ∧ d.isAlphanum = true := by
  have hlt := lt_of_isAlphanum h
  have hlower : c.isAlphanum = true → c.toLower.isAlphanum = true :=
    ascii_cases (fun c => c.isAlphanum = true → c.toLower.isAlphanum = true) (by decide +kernel) hlt
  exact ⟨c.toLower, by rw [lowercase, if_pos hlt], hlower h⟩

theorem uppercase_alphanum (h : c.isAlphanum = true) :
    ∃ d, uppercase c = [d] ∧ d.isAlphanum = true := by
  have hlt := lt_of_isAlphanum h
  have hupper : c.isAlphanum = true → c.toUpper.isAlphanum = true :=
    ascii_cases (fun c => c.isAlphanum = true → c.toUpper.isAlphanum = true) (by decide +kernel) hlt
  exact ⟨c.toUpper, by rw [uppercase, if_pos hlt], hupper h⟩

end Letters

structure IsAsciiRun (w : List Char) : Prop where
  nonempty : w ≠ []
  letters : ∀ c ∈ w, c.isAlphanum = true

section Words

variable {cs w : List Char}

theorem mem_of_mem_splitWhere {isBorder : Char → Bool} {piece : List Char}
    (h : piece ∈ splitWhere isBorder cs) : ∀ c ∈ piece, c ∈ cs := by
  induction cs generalizing piece with
  | nil =>
    obtain rfl := List.mem_singleton.mp h
    simp
  | cons c cs ih =>
    simp only [splitWhere] at h
    split at h
    · rcases List.mem_cons.mp h with rfl | h
      · simp
      · exact fun d hd => List.mem_cons_of_mem _ (ih h d hd)
    · split at h
      · obtain rfl := List.mem_singleton.mp h
        simp
      · rename_i first pieces hs
        rcases List.mem_cons.mp h with rfl | h
        · refine List.forall_mem_cons.mpr ⟨List.mem_cons_self, fun d hd => ?_⟩
          exact List.mem_cons_of_mem _ (ih (hs ▸ List.mem_cons_self) d hd)
        · exact fun d hd => List.mem_cons_of_mem _ (ih (hs ▸ List.mem_cons_of_mem _ h) d hd)

/-- A cut before the capital at hand follows one, so no word that is cut off is empty. -/
theorem splitRun_nonempty {phase : Phase} {word : List Char} (hphase : word = [] → phase = .fresh)
    (h : w ∈ splitRun phase word cs) : w ≠ [] := by
  fun_induction splitRun phase word cs with
  | case1 => cases h
  | case2 phase word c =>
    obtain rfl := List.mem_singleton.mp h
    simp
  | case3 phase word c next rest hcut ih =>
    rcases List.mem_cons.mp h with rfl | h
    · simp
    · exact ih (fun _ => rfl) h
  | case4 phase word c next rest hcut hcut' ih =>
    rcases List.mem_cons.mp h with rfl | h
    · intro hnil
      have hfresh := hphase (List.reverse_eq_nil_iff.mp hnil)
      cases hfresh.symm.trans hcut'.1
    · exact ih (by simp) h
  | case5 phase word c next rest hcut hcut' ih => exact ih (by simp) h

theorem words_ascii (hcs : ∀ c ∈ cs, c.toNat < 0x80) (h : w ∈ words cs) : IsAsciiRun w := by
  obtain ⟨run, hrun, hw⟩ := List.mem_flatMap.mp h
  refine ⟨splitRun_nonempty (fun _ => rfl) hw, fun c hc => ?_⟩
  have halpha := isAlphanumeric_of_mem_words h c hc
  have hlt : c.toNat < 0x80 := by
    rcases mem_of_mem_splitRun hw c hc with hm | hm
    · cases hm
    · exact hcs c (mem_of_mem_splitWhere hrun c hm)
  rwa [isAlphanumeric, if_pos hlt] at halpha

theorem lowercaseWord_letters (h : ∀ c ∈ w, c.isAlphanum = true) :
    (∀ c ∈ lowercaseWord w, c.isAlphanum = true) ∧ (w ≠ [] → lowercaseWord w ≠ []) := by
  fun_induction lowercaseWord w with
  | case1 => simp
  | case2 => exact absurd (h 'Σ' List.mem_cons_self) (by decide)
  | case3 c hc =>
    obtain ⟨d, hd, hletter⟩ := lowercase_alphanum (h c List.mem_cons_self)
    rw [hd]
    exact ⟨by simpa using hletter, by simp⟩
  | case4 c cs hne ih =>
    obtain ⟨hc, hcs⟩ := List.forall_mem_cons.mp h
    obtain ⟨d, hd, hletter⟩ := lowercase_alphanum hc
    rw [hd]
    exact ⟨List.forall_mem_cons.mpr ⟨hletter, (ih hcs).1⟩, by simp⟩

theorem IsAsciiRun.lowercaseWord (h : IsAsciiRun w) : IsAsciiRun (lowercaseWord w) := by
  obtain ⟨hletters, hne⟩ := lowercaseWord_letters h.letters
  exact ⟨hne h.nonempty, hletters⟩

theorem IsAsciiRun.capitalizeWord (h : IsAsciiRun w) : IsAsciiRun (capitalizeWord w) := by
  cases w with
  | nil => exact absurd rfl h.nonempty
  | cons c cs =>
    obtain ⟨hc, hcs⟩ := List.forall_mem_cons.mp h.letters
    obtain ⟨d, hd, hletter⟩ := uppercase_alphanum hc
    rw [Text.capitalizeWord, hd]
    exact ⟨by simp, List.forall_mem_cons.mpr ⟨hletter, (lowercaseWord_letters hcs).1⟩⟩

/-- Words put together with underscores between them begin with a letter or a digit. -/
theorem intercalate_ne_underscore {runs : List (List Char)} (h : ∀ w ∈ runs, IsAsciiRun w) :
    ['_'].intercalate runs ≠ ['_'] := by
  cases runs with
  | nil => simp
  | cons w ws =>
    obtain ⟨hne, hletters⟩ := h w List.mem_cons_self
    obtain ⟨c, cs, rfl⟩ := List.exists_cons_of_ne_nil hne
    have hc : c ≠ '_' := by
      rintro rfl
      exact absurd (hletters '_' List.mem_cons_self) (by decide)
    cases ws with
    | nil => simp [hc]
    | cons w' ws =>
      rw [List.intercalate_cons_cons]
      simp [hc]

end Words

section Cases

variable {s : String}

theorem lowered_ascii (h : IsAscii s) : ∀ w ∈ (words s.toList).map lowercaseWord, IsAsciiRun w :=
  List.forall_mem_map.mpr fun _ hw => (words_ascii h hw).lowercaseWord

theorem snakeCase_ascii (h : IsAscii s) : IsAsciiWord (snakeCase s) ∧ snakeCase s ≠ "_" := by
  refine ⟨?_, ?_⟩
  · rw [snakeCase, IsAsciiWord, String.toList_ofList]
    refine forall_mem_intercalate (List.all_eq_true.mp (by decide)) ?_
    intro w hw c hc
    simp [isAsciiWordChar, (lowered_ascii h w hw).letters c hc]
  · intro he
    refine intercalate_ne_underscore (lowered_ascii h) ?_
    simpa [snakeCase] using congrArg String.toList he

theorem upperCamelCase_ascii (h : IsAscii s) :
    IsAsciiWord (upperCamelCase s) ∧ upperCamelCase s ≠ "_" := by
  have hletters : ∀ c ∈ (upperCamelCase s).toList, c.isAlphanum = true := by
    rw [upperCamelCase, String.toList_ofList]
    refine List.forall_mem_flatMap.mpr fun w hw => ?_
    exact (words_ascii h hw).capitalizeWord.letters
  refine ⟨fun c hc => by simp [isAsciiWordChar, hletters c hc], ?_⟩
  intro he
  exact absurd (hletters '_' (by simp [he])) (by decide)

end Cases

end Text

/-- What an identifier is, keywords aside: ASCII letters, digits and underscores, no digit first, and
not an underscore alone. -/
structure HasIdentifierForm (name : String) : Prop where
  nonempty : name ≠ ""
  word : IsAsciiWord name
  start : name.toList.head?.any Char.isDigit = false
  notUnderscore : name ≠ "_"

/-- An ASCII name that the generated code can give to anything. -/
structure IsIdentifier (name : String) : Prop extends HasIdentifierForm name where
  notKeyword : isKeyword name = false

instance (name : String) : Decidable (IsIdentifier name) :=
  decidable_of_iff
    (name ≠ "" ∧ IsAsciiWord name ∧ name.toList.head?.any Char.isDigit = false ∧ name ≠ "_" ∧
      isKeyword name = false)
    ⟨fun ⟨h₁, h₂, h₃, h₄, h₅⟩ => ⟨⟨h₁, h₂, h₃, h₄⟩, h₅⟩,
      fun h => ⟨h.nonempty, h.word, h.start, h.notUnderscore, h.notKeyword⟩⟩

section Identifiers

variable {name rest start : String}

theorem isKeyword_of_mark {c : Char} (hc : c ∈ name.toList) (hm : Text.isMark c = true) :
    isKeyword name = false := by
  have hnone : ∀ keyword ∈ keywords, keyword.toList.any Text.isMark = false := by decide +kernel
  by_contra hk
  have hmem : name ∈ keywords := by simpa [isKeyword] using hk
  exact List.any_eq_false.mp (hnone name hmem) c hc hm

/-- More signs after a name change nothing about its beginning, and leave no underscore alone. -/
theorem HasIdentifierForm.append (h : HasIdentifierForm name) (hr : IsAsciiWord rest) :
    HasIdentifierForm (name ++ rest) := by
  obtain ⟨c, cs, hcs⟩ : ∃ c cs, name.toList = c :: cs :=
    List.exists_cons_of_ne_nil (by simpa using h.nonempty)
  refine ⟨?_, isAsciiWord_append.mpr ⟨h.word, hr⟩, ?_, ?_⟩
  · intro hnil
    simpa [hcs] using congrArg String.toList hnil
  · have hstart := h.start
    simpa [hcs] using hstart
  · intro hunderscore
    have hlist : c :: (cs ++ rest.toList) = ['_'] := by
      simpa [hcs] using congrArg String.toList hunderscore
    obtain ⟨rfl, hnone⟩ := List.cons.inj hlist
    obtain ⟨rfl, _⟩ := List.append_eq_nil_iff.mp hnone
    exact h.notUnderscore (String.toList_injective hcs)

theorem IsIdentifier.tail (h : IsIdentifier name) (hr : IsTail rest) :
    IsIdentifier (name ++ rest) := by
  obtain ⟨c, hc, hm⟩ := hr.marked
  exact ⟨h.append hr.word, isKeyword_of_mark (by simp [hc]) hm⟩

/-- A keyword with an underscore is none any more. -/
theorem HasIdentifierForm.unless_keyword (h : HasIdentifierForm name) :
    IsIdentifier (if isKeyword name then name ++ "_" else name) := by
  split
  · exact ⟨h.append (by decide), isKeyword_of_mark (c := '_') (by simp) (by decide)⟩
  · rename_i hk
    exact ⟨h, by simpa using hk⟩

/-- An underscore goes before a digit, and then one after a keyword. -/
theorem isIdentifier_escape (hne : name ≠ "") (hw : IsAsciiWord name) (hu : name ≠ "_") :
    IsIdentifier (Naming.escape name) := by
  obtain ⟨c, cs, hcs⟩ : ∃ c cs, name.toList = c :: cs :=
    List.exists_cons_of_ne_nil (by simpa using hne)
  simp only [Naming.escape, hcs]
  refine HasIdentifierForm.unless_keyword ?_
  split
  · refine ⟨by simp, isAsciiWord_append.mpr ⟨by decide, hw⟩, by simp, ?_⟩
    intro hunderscore
    have hlist := congrArg String.toList hunderscore
    simp [hcs] at hlist
  · rename_i hdigit
    exact ⟨hne, hw, by simpa [hcs] using hdigit, hu⟩

/-- A raw name that is ASCII gives an identifier, or the fallback where it has no letter and no
digit. -/
theorem Naming.isIdentifier_valueIdent {raw fallback : String} (hr : IsAscii raw)
    (hf : IsIdentifier fallback) : IsIdentifier (valueIdent raw fallback) := by
  simp only [valueIdent]
  split
  · exact hf
  · rename_i hne
    obtain ⟨hword, hunderscore⟩ := Text.snakeCase_ascii hr
    exact isIdentifier_escape hne hword hunderscore

theorem Naming.isIdentifier_typeIdent {raw fallback : String} (hr : IsAscii raw)
    (hf : IsIdentifier fallback) : IsIdentifier (typeIdent raw fallback) := by
  have hname : ∀ name, IsAsciiWord name ∧ name ≠ "_" →
      IsIdentifier (if name = "" then fallback else escape name) := by
    intro name hn
    split
    · exact hf
    · rename_i hne
      exact isIdentifier_escape hne hn.1 hn.2
  simp only [typeIdent]
  refine hname _ ?_
  split
  · rename_i ht
    exact isTypeLike_ascii ht
  · exact Text.upperCamelCase_ascii hr

theorem IsIdentifier.head (h : IsIdentifier name) (hs : start ∈ Naming.heads) :
    IsIdentifier (start ++ name) := by
  have hheads : ∀ start ∈ Naming.heads, IsIdentifier start ∧
      start.toList.any Text.isMark = true := by decide +kernel
  obtain ⟨hstart, hmarked⟩ := hheads start hs
  obtain ⟨c, hc, hm⟩ := List.any_eq_true.mp hmarked
  exact ⟨hstart.append h.word, isKeyword_of_mark (by simp [hc]) hm⟩

/-- Generated names are identifiers when the raw names are ASCII. -/
theorem Coined.isIdentifier {Raw : String → Prop} (hraw : ∀ raw, Raw raw → IsAscii raw)
    (h : Coined Raw name) : IsIdentifier name := by
  have hlabels : ∀ name ∈ Naming.labels, IsIdentifier name := by decide +kernel
  induction h with
  | label h => exact hlabels _ h
  | value hr _ ih => exact Naming.isIdentifier_valueIdent (hraw _ hr) ih
  | type hr _ ih => exact Naming.isIdentifier_typeIdent (hraw _ hr) ih
  | tail _ ht ih => exact ih.tail ht
  | head hs _ ih => exact ih.head hs

end Identifiers

end AbiBindings
