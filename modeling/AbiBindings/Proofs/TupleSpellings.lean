import AbiBindings.Declaration
import AbiBindings.Proofs.TypeGrammar

namespace AbiBindings

def Text.beginsBlank (s : String) : Bool := s.toList.head?.any isBlank

namespace TypeExpr

variable {s : String} {t : TypeExpr} {form : Spelling}

/-- A text that does not begin with a blank begins with what stands between its blanks. -/
theorem trimChars_prefix {cs : List Char} (h : cs.head?.any Text.isBlank = false) :
    Text.trimChars cs <+: cs := by
  have hstart : cs.dropWhile Text.isBlank = cs := by
    cases cs with
    | nil => rfl
    | cons c cs =>
      rw [List.head?_cons, Option.any_some] at h
      exact List.dropWhile_cons_of_neg (by simp [h])
  have hend : cs.reverse.dropWhile Text.isBlank <:+ cs.reverse := List.dropWhile_suffix _
  rw [Text.trimChars, hstart]
  simpa using List.reverse_prefix.mpr hend

/-- A type that can be read is spelled by the grammar, and is a tuple by its keyword. -/
theorem spelling_of_parse (h : parse s = .ok t) : ∃ form : Spelling,
    Text.trimChars s.toList = form.chars ∧ (t.isTuple = true ↔ form.keyword = .tuple) := by
  rcases parse_cases s with ⟨_, hp⟩ | ⟨form, _, hc, hp⟩ | ⟨_, _, _, hp⟩
  · cases h.symm.trans hp
  · refine ⟨form, by rw [← hc, toList_trim], ?_⟩
    have hverdict := h.symm.trans hp
    simp only [Spelling.verdict] at hverdict
    split at hverdict
    · obtain rfl := Except.ok.inj hverdict
      obtain ⟨keyword, width, lengths⟩ := form
      cases keyword <;> simp [isTuple, Spelling.type, Spelling.base]
    · cases hverdict
  · cases h.symm.trans hp

/-- No other keyword begins with the letter that `tuple` begins with. -/
theorem tuple_prefix_iff {rest : List Char} (h : form.chars ++ rest = s.toList) :
    Keyword.tuple.chars <+: s.toList ↔ form.keyword = .tuple := by
  obtain ⟨keyword, width, lengths⟩ := form
  rw [← h, Spelling.chars, List.append_assoc, List.append_assoc]
  cases keyword <;> simp [Keyword.chars]

end TypeExpr

namespace Parameter

variable {p : Parameter} {t : TypeExpr}

theorem isTuple_iff_prefix : p.isTuple = true ↔
    TypeExpr.Keyword.tuple.chars <+: p.typeText.toList := List.isPrefixOf_iff_prefix

theorem isTuple_of_beginsBlank (h : Text.beginsBlank p.typeText = true) : p.isTuple = false := by
  rw [Bool.eq_false_iff, ne_eq, isTuple_iff_prefix]
  rintro ⟨rest, hrest⟩
  rw [Text.beginsBlank, ← hrest] at h
  have hletter : Text.isBlank 't' = true := h
  exact absurd hletter (by decide)

theorem isTuple_of_not_beginsBlank (hp : TypeExpr.parse p.typeText = .ok t)
    (h : Text.beginsBlank p.typeText = false) : p.isTuple = t.isTuple := by
  obtain ⟨form, hform, htuple⟩ := TypeExpr.spelling_of_parse hp
  obtain ⟨rest, hrest⟩ := TypeExpr.trimChars_prefix h
  rw [hform] at hrest
  rw [Bool.eq_iff_iff, htuple, isTuple_iff_prefix]
  exact TypeExpr.tuple_prefix_iff hrest

/-- Of a type that can be read, the test on the spelling says the same as the test on the type, unless
a tuple has a blank in front. That one it misses. -/
theorem tuple_tests_agree (hp : TypeExpr.parse p.typeText = .ok t) :
    p.isTuple = (t.isTuple && !Text.beginsBlank p.typeText) ∧
    (p.isTuple = t.isTuple ↔ ¬(t.isTuple = true ∧ Text.beginsBlank p.typeText = true)) := by
  cases hblank : Text.beginsBlank p.typeText with
  | true =>
    rw [isTuple_of_beginsBlank hblank]
    cases t.isTuple <;> simp
  | false =>
    rw [isTuple_of_not_beginsBlank hp hblank]
    simp

def spaced (typeText : String) : Parameter where
  name := "path"
  typeText
  components := [{ name := "x", typeText := "uint256" }]

theorem tuple_tests_agree_spaced : TypeExpr.parse (spaced "tuple[2][]\t").typeText =
      .ok ⟨.tuple, [some 2, none]⟩ ∧ (spaced "tuple[2][]\t").isTuple = true := by
  have hp : TypeExpr.parse (spaced "tuple[2][]\t").typeText = .ok ⟨.tuple, [some 2, none]⟩ := by
    decide +kernel
  exact ⟨hp, (tuple_tests_agree hp).1.trans (by decide +kernel)⟩

/-- The test on the spelling misses a tuple with a blank in front, which can be read. -/
theorem tuple_missed_spaced : ¬∀ (p : Parameter) (t : TypeExpr),
    TypeExpr.parse p.typeText = .ok t → p.isTuple = t.isTuple := by
  intro hagree
  have hp : TypeExpr.parse (spaced " tuple[2][]").typeText = .ok ⟨.tuple, [some 2, none]⟩ := by
    decide +kernel
  have hmissed := hagree _ _ hp
  exact absurd hmissed (by decide +kernel)

end Parameter

end AbiBindings
