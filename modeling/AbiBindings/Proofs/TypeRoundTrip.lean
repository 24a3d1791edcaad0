import AbiBindings.Proofs.TypeGrammar
import AbiBindings.Proofs.TypeText

namespace AbiBindings

namespace Text

/-- Signs of ASCII other than the control signs and the space. -/
theorem not_isBlank_of_ascii {c : Char} (hlow : 0x21 ≤ c.toNat) (hhigh : c.toNat < 0x7f) :
    isBlank c = false := by
  have htable : ∀ code < 0x7f, 0x21 ≤ code → inRanges blankRanges code = false := by decide
  exact htable c.toNat hhigh hlow

theorem dropWhile_blanks {blanks cs : List Char} (hb : ∀ c ∈ blanks, isBlank c = true)
    (hcs : ∀ c ∈ cs, isBlank c = false) : (blanks ++ cs).dropWhile isBlank = cs := by
  rw [List.dropWhile_append_of_pos hb]
  cases cs with
  | nil => rfl
  | cons c cs => simp [hcs c List.mem_cons_self]

/-- Blanks at the ends go, and nothing else does when there are none between them. -/
theorem trimChars_between {before cs after : List Char} (hb : ∀ c ∈ before, isBlank c = true)
    (hcs : ∀ c ∈ cs, isBlank c = false) (ha : ∀ c ∈ after, isBlank c = true) :
    trimChars (before ++ cs ++ after) = cs := by
  have ha' : ∀ c ∈ after.reverse, isBlank c = true := fun c hc => ha c (List.mem_reverse.mp hc)
  have hcs' : ∀ c ∈ cs.reverse, isBlank c = false := fun c hc => hcs c (List.mem_reverse.mp hc)
  have hdrop : (cs ++ after).reverse.dropWhile isBlank = cs.reverse := by
    rw [List.reverse_append, dropWhile_blanks ha' hcs']
  rw [trimChars, List.append_assoc, List.dropWhile_append_of_pos hb]
  cases cs with
  | nil =>
    have hnil : after.dropWhile isBlank = [] := by simpa using dropWhile_blanks ha hcs
    simp [hnil]
  | cons c cs =>
    have hfirst := hcs c List.mem_cons_self
    rw [List.cons_append, List.dropWhile_cons_of_neg (by simp [hfirst]), ← List.cons_append, hdrop,
      List.reverse_reverse]

end Text

def Elementary.InRange : Elementary → Prop
  | .uint bits | .int bits => 8 ∣ bits ∧ 8 ≤ bits ∧ bits ≤ 256
  | .fixedBytes size => 1 ≤ size ∧ size ≤ 32
  | _ => True

def Base.InRange : Base → Prop
  | .elementary e => e.InRange
  | .tuple => True

namespace TypeExpr

/-- The width and every length of a fixed array are in range. -/
structure InRange (t : TypeExpr) : Prop where
  base : t.base.InRange
  dims : ∀ n, some n ∈ t.dims → 0 < n ∧ n < 2 ^ 64

theorem number_toDigits (n : Nat) : number (Nat.toDigits 10 n) = n :=
  Nat.ofDigitChars_toDigits (by decide) (by decide)

/-- Only zero is written with a zero in front. -/
theorem isWidth_toDigits {n : Nat} (h : n ≠ 0) : IsWidth (Nat.toDigits 10 n) := by
  refine ⟨fun c => Nat.isDigit_of_mem_toDigits (by decide) (by decide), ?_⟩
  induction n using Nat.strongRecOn with
  | ind n ih =>
    rw [Nat.toDigits_eq_if (by decide)]
    split
    · rename_i hlt
      have hdigits : ∀ n < 10, n ≠ 0 → n.digitChar ≠ '0' := by decide
      exact ⟨_, [], rfl, hdigits n hlt h⟩
    · obtain ⟨c, rest, he, hc⟩ := ih (n / 10) (by omega) (by omega)
      exact ⟨c, rest ++ [(n % 10).digitChar], by rw [he]; rfl, hc⟩

theorem Stem.digits {k : Keyword} {ds : List Char} (h : Stem k ds) :
    ∀ c ∈ ds, c.isDigit = true := by
  cases h with
  | word => simp
  | uint h | int h | bytes h => exact h.digits

theorem not_isBlank_of_isDigit {c : Char} (h : c.isDigit = true) : Text.isBlank c = false := by
  simp only [Char.isDigit, Bool.and_eq_true, decide_eq_true_eq, ge_iff_le,
    UInt32.le_iff_toNat_le] at h
  have hlow : 48 ≤ c.toNat := h.1
  have hhigh : c.toNat ≤ 57 := h.2
  exact Text.not_isBlank_of_ascii (by omega) (by omega)

/-- The grammar has no blanks. -/
theorem Spelling.Grammatical.not_isBlank {s : Spelling} (h : s.Grammatical) :
    ∀ c ∈ s.chars, Text.isBlank c = false := by
  have hletters : (s.keyword.chars.all fun c => !Text.isBlank c) = true := by
    cases s.keyword <;> decide
  have hkeyword : ∀ c ∈ s.keyword.chars, Text.isBlank c = false := fun c hc => by
    simpa using List.all_eq_true.mp hletters c hc
  simp only [chars, suffixes, List.forall_mem_append, List.forall_mem_flatMap, List.forall_mem_cons]
  refine ⟨⟨hkeyword, fun c hc => not_isBlank_of_isDigit (h.stem.digits c hc)⟩, fun ds hds => ?_⟩
  exact ⟨by decide, fun c hc => not_isBlank_of_isDigit (h.lengths ds hds c hc), by decide, by simp⟩

def stem : Base → Keyword × List Char
  | .tuple => (.tuple, [])
  | .elementary (.uint bits) => (.uint, Nat.toDigits 10 bits)
  | .elementary (.int bits) => (.int, Nat.toDigits 10 bits)
  | .elementary .address => (.address, [])
  | .elementary .bool => (.bool, [])
  | .elementary (.fixedBytes size) => (.bytes, Nat.toDigits 10 size)
  | .elementary .bytes => (.bytes, [])
  | .elementary .string => (.string, [])

def spelling (t : TypeExpr) : Spelling where
  keyword := (stem t.base).1
  width := (stem t.base).2
  lengths := t.dims.map lengthDigits

theorem suffixes_lengthDigits (dims : List (Option Nat)) :
    Spelling.suffixes (dims.map lengthDigits) = dimChars dims := by
  rw [Spelling.suffixes, List.flatMap_map, dimChars]

theorem chars_spelling (t : TypeExpr) : t.spelling.chars = t.text.toList := by
  obtain ⟨base, dims⟩ := t
  rw [text, String.toList_append, toList_suffix, ← suffixes_lengthDigits]
  cases base with
  | tuple => simp [spelling, stem, Spelling.chars, Keyword.chars, Base.text]
  | elementary e =>
    cases e <;> simp [spelling, stem, Spelling.chars, Keyword.chars, Base.text, Elementary.text]

theorem grammatical_spelling {t : TypeExpr} (h : t.InRange) : t.spelling.Grammatical := by
  obtain ⟨base, dims⟩ := t
  have hlengths : ∀ ds ∈ dims.map lengthDigits, ∀ c ∈ ds, c.isDigit = true := by
    refine List.forall_mem_map.mpr fun d _ => ?_
    cases d with
    | none => simp [lengthDigits]
    | some n => exact fun c => Nat.isDigit_of_mem_toDigits (by decide) (by decide)
  have hbase := h.base
  cases base with
  | tuple => exact ⟨.word _, hlengths⟩
  | elementary e =>
    cases e with
    | uint bits =>
      obtain ⟨_, hlow, _⟩ := hbase
      exact ⟨.uint (isWidth_toDigits (by omega)), hlengths⟩
    | int bits =>
      obtain ⟨_, hlow, _⟩ := hbase
      exact ⟨.int (isWidth_toDigits (by omega)), hlengths⟩
    | fixedBytes size =>
      obtain ⟨hlow, _⟩ := hbase
      exact ⟨.bytes (isWidth_toDigits (by omega)), hlengths⟩
    | _ => exact ⟨.word _, hlengths⟩

theorem lengthFault_lengthDigits {d : Option Nat} (h : ∀ n ∈ d, 0 < n ∧ n < 2 ^ 64) :
    Spelling.lengthFault (lengthDigits d) = none := by
  cases d with
  | none => rfl
  | some n =>
    have hn := h n rfl
    simp only [lengthDigits, Spelling.lengthFault, number_toDigits, hn, and_self, or_true,
      ↓reduceIte]

theorem length_lengthDigits (d : Option Nat) :
    (if lengthDigits d = [] then none else some (number (lengthDigits d))) = d := by
  cases d with
  | none => rfl
  | some n => simp [lengthDigits, number_toDigits]

theorem base_spelling (t : TypeExpr) : t.spelling.base = t.base := by
  obtain ⟨base, dims⟩ := t
  cases base with
  | tuple => rfl
  | elementary e => cases e <;> simp [spelling, stem, Spelling.base, number_toDigits]

theorem widthFault_spelling {t : TypeExpr} (h : t.InRange) : t.spelling.widthFault = none := by
  obtain ⟨base, dims⟩ := t
  have hbase := h.base
  cases base with
  | tuple => rfl
  | elementary e =>
    cases e with
    | uint n | int n | fixedBytes n =>
      simp only [Base.InRange, Elementary.InRange] at hbase
      simp only [spelling, stem, Spelling.widthFault, number_toDigits, hbase, and_self, or_true,
        ↓reduceIte]
    | _ => rfl

/-- The canonical spelling of a type in range has no number out of range, and means the type. -/
theorem verdict_spelling {t : TypeExpr} (h : t.InRange) : t.spelling.verdict = .ok t := by
  have hlengths : t.spelling.lengths.filterMap Spelling.lengthFault = [] := by
    rw [spelling, List.filterMap_eq_nil_iff]
    refine List.forall_mem_map.mpr fun d hd => lengthFault_lengthDigits ?_
    rintro n rfl
    exact h.dims n hd
  have htype : t.spelling.type = t := by
    rw [Spelling.type, base_spelling, spelling, List.map_map]
    simp only [Function.comp_def, length_lengthDigits, List.map_id']
  rw [Spelling.verdict, Spelling.faults, widthFault_spelling h, hlengths, htype]
  rfl

section Parsing

variable {s before after : String} {t : TypeExpr}

/-- The canonical spelling reads back as the type, blanks around it or not. -/
theorem parse_text (h : t.InRange) (hb : ∀ c ∈ before.toList, Text.isBlank c = true)
    (ha : ∀ c ∈ after.toList, Text.isBlank c = true) :
    parse (before ++ t.text ++ after) = .ok t := by
  have htrim : (Text.trim (before ++ t.text ++ after)).toList = t.spelling.chars := by
    rw [toList_trim, String.toList_append, String.toList_append, ← chars_spelling]
    exact Text.trimChars_between hb (grammatical_spelling h).not_isBlank ha
  rw [parse_of_form (grammatical_spelling h) htrim, verdict_spelling h]

theorem Spelling.base_inRange {form : Spelling} (h : form.widthFault = none) :
    form.base.InRange := by
  obtain ⟨keyword, width, lengths⟩ := form
  simp only [widthFault] at h
  cases keyword with
  | uint | int | bytes =>
    by_cases hw : width = []
    · simp [base, hw, Base.InRange, Elementary.InRange]
    · simp only [hw, false_or, ite_eq_left_iff, reduceCtorEq, imp_false, not_not] at h
      simpa only [base, hw, ↓reduceIte, Base.InRange, Elementary.InRange] using h
  | _ => trivial

theorem Spelling.length_inRange {ds : List Char} {n : Nat} (h : lengthFault ds = none)
    (hn : (if ds = [] then none else some (number ds)) = some n) : 0 < n ∧ n < 2 ^ 64 := by
  simp only [lengthFault] at h
  split at hn
  · cases hn
  · rename_i hds
    cases hn
    split at h
    · rename_i hrange
      exact hrange.resolve_left hds
    · cases h

/-- What is read is in range. -/
theorem inRange_of_parse (h : parse s = .ok t) : t.InRange := by
  rcases parse_cases s with ⟨_, hf⟩ | ⟨form, _, _, hf⟩ | ⟨_, _, _, hf⟩
  · cases hf.symm.trans h
  · have hv := hf.symm.trans h
    simp only [Spelling.verdict] at hv
    split at hv
    · rename_i hnone
      cases hv
      obtain ⟨hwidth, hlengths⟩ := List.append_eq_nil_iff.mp hnone
      refine ⟨Spelling.base_inRange (by simpa using hwidth), fun n hn => ?_⟩
      obtain ⟨ds, hds, he⟩ := List.mem_map.mp hn
      exact Spelling.length_inRange (List.filterMap_eq_nil_iff.mp hlengths ds hds) he
    · cases hv
  · cases hf.symm.trans h

end Parsing

/-- Canonical spellings and types in range belong to each other. Blanks around a spelling do not
matter, what any text reads as is in range, and texts read alike just when their canonical spellings
are one. -/
theorem text_parse_inverse :
    (∀ (t : TypeExpr) (before after : String), (∀ c ∈ before.toList, Text.isBlank c = true) →
      (∀ c ∈ after.toList, Text.isBlank c = true) →
      (parse (before ++ t.text ++ after) = .ok t ↔ t.InRange)) ∧
    (∀ s t, parse s = .ok t → t.InRange ∧ parse t.text = .ok t) ∧
    ∀ s s' t t', parse s = .ok t → parse s' = .ok t' →
      (t.text = t'.text ↔ parse s = parse s') := by
  refine ⟨?_, ?_, ?_⟩
  · intro t before after hb ha
    exact ⟨inRange_of_parse, fun h => parse_text h hb ha⟩
  · intro s t h
    have ht := inRange_of_parse h
    refine ⟨ht, ?_⟩
    have hempty : ∀ c ∈ "".toList, Text.isBlank c = true := by simp
    have hp := parse_text ht hempty hempty
    rwa [String.empty_append, String.append_empty] at hp
  · intro s s' t t' h h'
    rw [h, h', Except.ok.injEq]
    exact ⟨text_inj, congrArg text⟩

/-- A dynamic array within the longest of fixed arrays within an array of one. -/
def longest : TypeExpr := ⟨.elementary (.int 24), [none, some 18446744073709551615, some 1]⟩

/-- The longest fixed array reads back between blanks, and an alias has the spelling of what it
stands for. -/
theorem text_parse_inverse_longest : longest.InRange ∧
    parse ("\t " ++ longest.text ++ "\n") = .ok longest ∧
    ∃ t t', parse "uint[01]" = .ok t ∧ parse " uint256[1]" = .ok t' ∧ t.text = t'.text := by
  have hrange : longest.InRange := by
    refine ⟨⟨by decide, by decide, by decide⟩, ?_⟩
    simp [longest]
  obtain ⟨hread, _, hsame⟩ := text_parse_inverse
  have halias : parse "uint[01]" = .ok ⟨.elementary (.uint 256), [some 1]⟩ := by decide +kernel
  have hfull : parse " uint256[1]" = .ok ⟨.elementary (.uint 256), [some 1]⟩ := by decide +kernel
  have hblanks := hread longest "\t " "\n" (List.all_eq_true.mp (by decide))
    (List.all_eq_true.mp (by decide))
  exact ⟨hrange, hblanks.mpr hrange, _, _, halias, hfull,
    (hsame _ _ _ _ halias hfull).mpr (halias.trans hfull.symm)⟩

end TypeExpr

end AbiBindings
