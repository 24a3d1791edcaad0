import AbiBindings.Proofs.WordNames
import AbiBindings.Render.Module

namespace AbiBindings

/-- A text that stays on its line. -/
def Unbroken (s : String) : Prop := '\n' ∉ s.toList

instance (s : String) : Decidable (Unbroken s) := inferInstanceAs (Decidable ('\n' ∉ s.toList))

section Texts

variable {a b : String}

@[simp] theorem unbroken_append : Unbroken (a ++ b) ↔ Unbroken a ∧ Unbroken b := by
  simp only [Unbroken, String.toList_append, List.mem_append, not_or]

theorem unbroken_around {before after : String} (hb : Unbroken before) (ha : Unbroken a)
    (hl : Unbroken after) : Unbroken (before ++ a ++ after) :=
  unbroken_append.mpr ⟨unbroken_append.mpr ⟨hb, ha⟩, hl⟩

theorem unbroken_of_around {before after : String} (h : Unbroken (before ++ a ++ after)) :
    Unbroken a :=
  (unbroken_append.mp (unbroken_append.mp h).1).2

/-- Fits a literal, whose signs are then looked at one by one. -/
theorem unbroken_ofList {cs : List Char} (h : '\n' ∉ cs) : Unbroken (String.ofList cs) := by
  simpa only [Unbroken, String.toList_ofList] using h

theorem IsWord.unbroken (h : IsWord a) : Unbroken a := by
  intro hm
  have hword := h '\n' hm
  contradiction

theorem unbroken_toString (n : Nat) : Unbroken (toString n) := (isWord_repr n).unbroken

theorem unbroken_join {items : List String} (h : ∀ item ∈ items, Unbroken item) :
    Unbroken (String.join items) := by
  intro hm
  simp only [String.toList_join, List.mem_flatMap] at hm
  obtain ⟨item, hi, hm⟩ := hm
  exact h item hi hm

theorem unbroken_intercalate {separator : String} {items : List String} (hs : Unbroken separator)
    (h : ∀ item ∈ items, Unbroken item) : Unbroken (separator.intercalate items) := by
  have hall : ∀ c ∈ (separator.intercalate items).toList, c ≠ '\n' := by
    rw [String.toList_intercalate]
    refine forall_mem_intercalate (fun c hc he => hs (he ▸ hc)) ?_
    intro item hi c hc he
    obtain ⟨text, ht, rfl⟩ := List.mem_map.mp hi
    exact h text ht (he ▸ hc)
  exact fun hm => hall '\n' hm rfl

end Texts

namespace Text

theorem mem_toDigitsCore {base fuel n : Nat} {digits : List Char} {c : Char}
    (h : c ∈ Nat.toDigitsCore base fuel n digits) : c ∈ digits ∨ ∃ d, c = Nat.digitChar d := by
  induction fuel generalizing n digits with
  | zero => exact .inl h
  | succ fuel ih =>
    simp only [Nat.toDigitsCore] at h
    have hcons : c ∈ (n % base).digitChar :: digits → c ∈ digits ∨ ∃ d, c = Nat.digitChar d := by
      intro hm
      rcases List.mem_cons.mp hm with rfl | hm
      · exact .inr ⟨_, rfl⟩
      · exact .inl hm
    split at h
    · exact hcons h
    · rcases ih h with hm | hd
      · exact hcons hm
      · exact .inr hd

/-- Beyond sixteen all digits are written alike. -/
theorem forall_digitChar {P : Char → Prop} (h : ∀ d ≤ 16, P (Nat.digitChar d)) (d : Nat) :
    P (Nat.digitChar d) := by
  rcases Nat.lt_or_ge d 16 with hlt | hge
  · exact h d (Nat.le_of_lt hlt)
  · have hstar : Nat.digitChar d = Nat.digitChar 16 := by
      unfold Nat.digitChar
      repeat rw [if_neg (by omega)]
    rw [hstar]
    exact h 16 (Nat.le_refl 16)

theorem digitChar_ne_lineFeed (d : Nat) : Nat.digitChar d ≠ '\n' :=
  forall_digitChar (P := (· ≠ '\n')) (by decide) d

theorem lineFeed_not_mem_toDigits (base n : Nat) : '\n' ∉ Nat.toDigits base n := by
  intro hm
  rcases mem_toDigitsCore hm with hm | ⟨d, hd⟩
  · cases hm
  · exact digitChar_ne_lineFeed d hd.symm

theorem lineFeed_not_mem_escapeChar (c : Char) : '\n' ∉ escapeChar c := by
  simp only [escapeChar]
  split
  · decide
  split
  · decide
  split
  · decide
  rename_i hc
  split
  · decide
  split
  · decide
  split
  · decide
  split
  · simp only [List.mem_append, not_or]
    exact ⟨⟨by decide, lineFeed_not_mem_toDigits _ _⟩, by decide⟩
  · simpa using Ne.symm hc

/-- A literal stays on its line, whatever it holds. -/
theorem unbroken_quoted (s : String) : Unbroken (quoted s) := by
  simp only [Unbroken, quoted, String.toList_ofList, List.cons_append, List.mem_cons,
    List.mem_append, List.mem_flatMap, List.not_mem_nil, or_false, not_or, not_exists, not_and]
  exact ⟨by decide, fun c _ => lineFeed_not_mem_escapeChar c, by decide⟩

theorem isWord_hexByte (byte : UInt8) : IsWord (hexByte byte) := by
  have hdigit : ∀ d < 16, isWordChar (Nat.digitChar d) = true := by decide
  have hbyte := byte.toNat_lt
  refine isWord_ofList.mpr (List.forall_mem_cons.mpr ⟨hdigit _ ?_, List.forall_mem_singleton.mpr ?_⟩)
  · omega
  · exact hdigit _ (by omega)

theorem unbroken_hexBytes (bytes : List UInt8) : Unbroken (hexBytes bytes) := by
  refine unbroken_join fun item hi => ?_
  obtain ⟨byte, _, rfl⟩ := List.mem_map.mp hi
  exact (isWord_hexByte byte).unbroken

end Text

namespace Step

/-- A step that writes one line at most. -/
def Unbroken : Step → Prop
  | .line text | .nestedLine text => AbiBindings.Unbroken text
  | _ => True

def isLine : Step → Bool
  | .indent | .dedent => false
  | _ => true

end Step

def lineFeeds (s : String) : Nat := s.toList.count '\n'

section Writing

variable {pen : Pen} {steps : List Step}

theorem lineFeeds_append (a b : String) : lineFeeds (a ++ b) = lineFeeds a + lineFeeds b := by
  simp only [lineFeeds, String.toList_append, List.count_append]

theorem Unbroken.lineFeeds {s : String} (h : Unbroken s) : lineFeeds s = 0 :=
  List.count_eq_zero.mpr h

theorem Pen.unbroken_indentation (h : AbiBindings.Unbroken pen.unit) :
    AbiBindings.Unbroken pen.indentation := by
  refine unbroken_join fun item hi => ?_
  rw [List.eq_of_mem_replicate hi]
  exact h

theorem Pen.lineFeeds_lineText {text : String} (hp : AbiBindings.Unbroken pen.unit)
    (ht : AbiBindings.Unbroken text) : lineFeeds (pen.lineText text) = 1 := by
  have hend : lineFeeds "\n" = 1 := by decide
  simp only [lineText]
  split
  · exact hend
  · rw [lineFeeds_append, lineFeeds_append, (unbroken_indentation hp).lineFeeds, ht.lineFeeds, hend]

/-- A step on one line writes one line feed or none. -/
theorem Pen.take_spec {step : Step} (hp : AbiBindings.Unbroken pen.unit) (hs : step.Unbroken) :
    lineFeeds (pen.take step).1 = (if step.isLine then 1 else 0) ∧
      (pen.take step).2.unit = pen.unit := by
  have hempty : lineFeeds "" = 0 := by decide
  cases step with
  | indent | dedent => exact ⟨hempty, rfl⟩
  | blank => exact ⟨by simp [take, Step.isLine, lineFeeds], rfl⟩
  | line text => exact ⟨lineFeeds_lineText hp hs, rfl⟩
  | nestedLine text =>
    have hp' : AbiBindings.Unbroken pen.indent.unit := hp
    exact ⟨lineFeeds_lineText hp' hs, rfl⟩

/-- A page has one line for each step that writes one. -/
theorem Pen.lineFeeds_write (hp : AbiBindings.Unbroken pen.unit) (hs : ∀ s ∈ steps, s.Unbroken) :
    lineFeeds (pen.write steps).1 = steps.countP (·.isLine) := by
  induction steps generalizing pen with
  | nil => rfl
  | cons step steps ih =>
    obtain ⟨hstep, hrest⟩ := List.forall_mem_cons.mp hs
    obtain ⟨hcount, hunit⟩ := take_spec hp hstep
    have hp' : AbiBindings.Unbroken (pen.take step).2.unit := hunit ▸ hp
    simp only [write, lineFeeds_append, hcount, ih hp' hrest, List.countP_cons]
    omega

theorem IndentStyle.unbroken_unit (style : IndentStyle) : AbiBindings.Unbroken style.unit := by
  cases style with
  | spaces count =>
    simp only [AbiBindings.Unbroken, unit, String.toList_ofList, List.mem_replicate]
    simp
  | tabs => decide

end Writing

end AbiBindings
