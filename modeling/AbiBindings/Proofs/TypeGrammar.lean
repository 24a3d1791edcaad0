import AbiBindings.Proofs.Basic
import AbiBindings.TypeExpr.Parser
import Mathlib.Algebra.Group.Nat.Defs

namespace AbiBindings

namespace Text

theorem afterPrefix_eq_some {start cs rest : List Char} :
    afterPrefix start cs = some rest ↔ cs = start ++ rest := by
  induction start generalizing cs with
  | nil => simp [afterPrefix, eq_comm]
  | cons p ps ih =>
    cases cs with
    | nil => simp [afterPrefix]
    | cons c cs =>
      simp only [afterPrefix, List.cons_append, List.cons.injEq]
      split
      · rename_i he
        rw [ih]
        exact ⟨fun h => ⟨he.symm, h⟩, And.right⟩
      · rename_i hne
        simp [Ne.symm hne]

/-- Digits are taken up to the first sign that is none. -/
theorem takeWhile_digits {ds rest : List Char} (hd : ∀ c ∈ ds, c.isDigit = true)
    (hr : ∀ c ∈ rest.head?, c.isDigit = false) :
    (ds ++ rest).takeWhile Char.isDigit = ds ∧ (ds ++ rest).dropWhile Char.isDigit = rest := by
  rw [List.takeWhile_append_of_pos hd, List.dropWhile_append_of_pos hd]
  cases rest with
  | nil => simp
  | cons c rest => simp [hr c rfl]

end Text

namespace TypeExpr

/-- The digits of a width. The first is not zero. -/
structure IsWidth (ds : List Char) : Prop where
  digits : ∀ c ∈ ds, c.isDigit = true
  first : ∃ c rest, ds = c :: rest ∧ c ≠ '0'

/-- The ways to write what stands before the array suffixes: a keyword alone, or one of three with
a width. -/
inductive Stem : Keyword → List Char → Prop
  | word (k : Keyword) : Stem k []
  | uint {ds : List Char} (h : IsWidth ds) : Stem .uint ds
  | int {ds : List Char} (h : IsWidth ds) : Stem .int ds
  | bytes {ds : List Char} (h : IsWidth ds) : Stem .bytes ds

namespace Spelling

def suffixes (lengths : List (List Char)) : List Char :=
  lengths.flatMap fun ds => '[' :: (ds ++ [']'])

def chars (s : Spelling) : List Char := s.keyword.chars ++ s.width ++ suffixes s.lengths

/-- The grammar of types: a stem, and any number of array suffixes. -/
structure Grammatical (s : Spelling) : Prop where
  stem : Stem s.keyword s.width
  lengths : ∀ ds ∈ s.lengths, ∀ c ∈ ds, c.isDigit = true

/-- What is wrong with the width, if anything is. Integers have a multiple of eight bits and no more
than 256, byte strings no more than 32 bytes. -/
def widthFault (s : Spelling) : Option ParseError :=
  match s.keyword with
  | .uint | .int =>
    if s.width = [] ∨ (8 ∣ number s.width ∧ 8 ≤ number s.width ∧ number s.width ≤ 256) then none
    else some (.integerWidth (String.ofList s.width))
  | .bytes =>
    if s.width = [] ∨ (1 ≤ number s.width ∧ number s.width ≤ 32) then none
    else some (.bytesLength (String.ofList s.width))
  | _ => none

def lengthFault (ds : List Char) : Option ParseError :=
  if ds = [] ∨ (0 < number ds ∧ number ds < 2 ^ 64) then none
  else some (.arrayLength (String.ofList ds))

/-- The numbers out of range, from the left. -/
def faults (s : Spelling) : List ParseError :=
  s.widthFault.toList ++ s.lengths.filterMap lengthFault

/-- Integers without a width have 256 bits. -/
def base (s : Spelling) : Base :=
  match s.keyword with
  | .tuple => .tuple
  | .uint => .elementary (.uint (if s.width = [] then 256 else number s.width))
  | .int => .elementary (.int (if s.width = [] then 256 else number s.width))
  | .address => .elementary .address
  | .bool => .elementary .bool
  | .bytes => .elementary (if s.width = [] then .bytes else .fixedBytes (number s.width))
  | .string => .elementary .string

def type (s : Spelling) : TypeExpr :=
  ⟨s.base, s.lengths.map fun ds => if ds = [] then none else some (number ds)⟩

/-- The first number out of range decides. -/
def verdict (s : Spelling) : Except ParseError TypeExpr :=
  match s.faults with
  | [] => .ok s.type
  | fault :: _ => .error fault

/-- Only numbers are at fault in a text that follows the grammar. -/
theorem numeric_of_mem_faults {s : Spelling} {fault : ParseError} (h : fault ∈ s.faults) :
    ∃ ds, fault = .integerWidth ds ∨ fault = .bytesLength ds ∨ fault = .arrayLength ds := by
  rcases List.mem_append.mp h with hw | hl
  · have he := Option.mem_toList.mp hw
    simp only [widthFault] at he
    split at he
    · split at he
      · cases he
      · exact ⟨_, .inl (Option.some.inj he).symm⟩
    · split at he
      · cases he
      · exact ⟨_, .inl (Option.some.inj he).symm⟩
    · split at he
      · cases he
      · exact ⟨_, .inr (.inl (Option.some.inj he).symm)⟩
    · cases he
  · obtain ⟨ds, _, he⟩ := List.mem_filterMap.mp hl
    simp only [lengthFault] at he
    split at he
    · cases he
    · exact ⟨_, .inr (.inr (Option.some.inj he).symm)⟩

theorem fault_of_verdict {s : Spelling} {fault : ParseError} (h : s.verdict = .error fault) :
    ∃ ds, fault = .integerWidth ds ∨ fault = .bytesLength ds ∨ fault = .arrayLength ds := by
  simp only [verdict] at h
  split at h
  · cases h
  · rename_i faults hf
    cases h
    exact numeric_of_mem_faults (hf ▸ List.mem_cons_self)

theorem chars_ne_nil (s : Spelling) : s.chars ≠ [] := by
  obtain ⟨keyword, width, lengths⟩ := s
  cases keyword <;> simp [chars, Keyword.chars]

theorem suffixes_nil : suffixes [] = [] := rfl

theorem suffixes_cons (ds : List Char) (lengths : List (List Char)) :
    suffixes (ds :: lengths) = '[' :: (ds ++ ']' :: suffixes lengths) := by
  simp [suffixes]

theorem head_suffixes (lengths : List (List Char)) : ∀ c ∈ (suffixes lengths).head?, c = '[' := by
  cases lengths with
  | nil => simp [suffixes_nil]
  | cons ds lengths => simp [suffixes_cons]

end Spelling

section Scanning

variable {k : Keyword} {cs rest ds : List Char} {lengths : List (List Char)} {position : Nat}

/-- A text that goes on after a keyword begins with no other keyword. -/
theorem scanKeyword_eq_some : scanKeyword cs = some (k, rest) ↔ cs = k.chars ++ rest := by
  constructor
  · intro h
    obtain ⟨k', _, hk⟩ := List.exists_of_findSome?_eq_some h
    obtain ⟨rest', hr, he⟩ := Option.map_eq_some_iff.mp hk
    cases he
    exact Text.afterPrefix_eq_some.mp hr
  · rintro rfl
    cases k <;> simp [scanKeyword, Keyword.all, Keyword.chars, Text.afterPrefix]

/-- What is read as a width is one, or there is none. -/
theorem scanWidth_spec {width : List Char} (h : scanWidth k cs = (width, rest)) :
    cs = width ++ rest ∧ Stem k width := by
  cases cs with
  | nil =>
    cases h
    exact ⟨rfl, .word k⟩
  | cons c cs =>
    simp only [scanWidth] at h
    split at h
    · rename_i hc
      obtain ⟨hk, hd, hz⟩ := hc
      obtain ⟨rfl, rfl⟩ := Prod.mk.inj h
      refine ⟨List.takeWhile_append_dropWhile.symm, ?_⟩
      have hwidth : IsWidth ((c :: cs).takeWhile Char.isDigit) :=
        ⟨List.all_eq_true.mp List.all_takeWhile, c, _, List.takeWhile_cons_of_pos hd, hz⟩
      cases k with
      | uint => exact .uint hwidth
      | int => exact .int hwidth
      | bytes => exact .bytes hwidth
      | _ => cases hk
    · cases h
      exact ⟨rfl, .word k⟩

theorem scanWidth_of_isWidth (hk : k.takesWidth = true) (hw : IsWidth ds)
    (hr : ∀ c ∈ rest.head?, c.isDigit = false) : scanWidth k (ds ++ rest) = (ds, rest) := by
  obtain ⟨htake, hdrop⟩ := Text.takeWhile_digits hw.digits hr
  obtain ⟨c, ds, rfl, hz⟩ := hw.first
  have hc := hw.digits c List.mem_cons_self
  rw [List.cons_append] at htake hdrop ⊢
  rw [scanWidth, if_pos ⟨hk, hc, hz⟩, htake, hdrop]

theorem scanWidth_of_stem (hs : Stem k ds) (hr : ∀ c ∈ rest.head?, c.isDigit = false) :
    scanWidth k (ds ++ rest) = (ds, rest) := by
  cases hs with
  | word =>
    cases rest with
    | nil => rfl
    | cons c rest => simp [scanWidth, hr c rfl]
  | uint h | int h | bytes h => exact scanWidth_of_isWidth rfl h hr

/-- What the scanner of suffixes has read, outside brackets or with some digits behind one. -/
def Suffixed (lengths : List (List Char)) : Option (List Char) → List Char → Prop
  | none, cs => cs = Spelling.suffixes lengths ∧ ∀ ds ∈ lengths, ∀ c ∈ ds, c.isDigit = true
  | some digits, cs => ∃ more rest, lengths = (digits.reverse ++ more) :: rest ∧
      cs = more ++ ']' :: Spelling.suffixes rest ∧ (∀ c ∈ more, c.isDigit = true) ∧
      ∀ ds ∈ rest, ∀ c ∈ ds, c.isDigit = true

/-- What is read as suffixes is all that is left of the text. -/
theorem scanSuffixes_spec {state : Option (List Char)}
    (h : scanSuffixes position state cs = .ok lengths) : Suffixed lengths state cs := by
  fun_induction scanSuffixes position state cs generalizing lengths with
  | case1 =>
    cases h
    exact ⟨rfl, by simp⟩
  | case2 position cs ih =>
    obtain ⟨more, rest, rfl, rfl, hmore, hrest⟩ := ih h
    refine ⟨by simp [Spelling.suffixes_cons], ?_⟩
    simpa using ⟨hmore, hrest⟩
  | case3 => cases h
  | case4 => cases h
  | case5 position digits cs ih =>
    obtain ⟨rest, hr, rfl⟩ := except_map_ok.mp h
    obtain ⟨rfl, hrest⟩ := ih hr
    exact ⟨[], rest, by simp, by simp, by simp, hrest⟩
  | case6 position digits c cs hc hd ih =>
    obtain ⟨more, rest, rfl, rfl, hmore, hrest⟩ := ih h
    exact ⟨c :: more, rest, by simp, by simp, by simpa using ⟨hd, hmore⟩, hrest⟩
  | case7 => cases h

/-- Digits behind a bracket are gathered up to the bracket that closes it. -/
theorem scanSuffixes_digits (position : Nat) (digits rest : List Char)
    (hd : ∀ c ∈ ds, c.isDigit = true) :
    ∃ position', scanSuffixes position (some digits) (ds ++ ']' :: rest) =
      (scanSuffixes position' none rest).map ((digits.reverse ++ ds) :: ·) := by
  induction ds generalizing position digits with
  | nil => exact ⟨position + 1, by simp [scanSuffixes]⟩
  | cons c ds ih =>
    obtain ⟨hc, hds⟩ := List.forall_mem_cons.mp hd
    have hclose : c ≠ ']' := by
      rintro rfl
      contradiction
    obtain ⟨position', he⟩ := ih (position + 1) (c :: digits) hds
    exact ⟨position', by simpa [scanSuffixes, hclose, hc] using he⟩

theorem scanSuffixes_suffixes (h : ∀ ds ∈ lengths, ∀ c ∈ ds, c.isDigit = true) :
    scanSuffixes position none (Spelling.suffixes lengths) = .ok lengths := by
  induction lengths generalizing position with
  | nil => rfl
  | cons ds lengths ih =>
    obtain ⟨hds, hrest⟩ := List.forall_mem_cons.mp h
    obtain ⟨position', he⟩ := scanSuffixes_digits (position + 1) [] (Spelling.suffixes lengths) hds
    rw [Spelling.suffixes_cons, scanSuffixes, if_pos rfl, he, ih hrest]
    rfl

/-- The scanner accepts what the grammar allows, and takes it apart as the grammar does. -/
theorem scan_eq_ok {s : Spelling} : scan cs = .ok s ↔ s.Grammatical ∧ cs = s.chars := by
  constructor
  · intro h
    simp only [scan] at h
    split at h
    · cases h
    · rename_i keyword rest hk
      split at h
      · cases h
      · rename_i lengths hl
        cases h
        obtain ⟨hw, hstem⟩ := scanWidth_spec (rfl : scanWidth keyword rest = _)
        obtain ⟨hs, hd⟩ := scanSuffixes_spec hl
        refine ⟨⟨hstem, hd⟩, ?_⟩
        rw [scanKeyword_eq_some.mp hk, Spelling.chars, List.append_assoc, ← hs]
        exact congrArg _ hw
  · rintro ⟨hs, rfl⟩
    have hkeyword := scanKeyword_eq_some.mpr (List.append_assoc s.keyword.chars s.width
      (Spelling.suffixes s.lengths))
    have hnext : ∀ c ∈ (Spelling.suffixes s.lengths).head?, c.isDigit = false := by
      intro c hc
      rw [Spelling.head_suffixes s.lengths c hc]
      rfl
    have hwidth := scanWidth_of_stem hs.stem hnext
    simp only [scan, Spelling.chars, hkeyword, hwidth, scanSuffixes_suffixes hs.lengths]

end Scanning

section Reading

variable {s : Spelling} {ds : List Char} {lengths : List (List Char)}

/-- Integers may go without a width, and else have one of thirty-two. -/
theorem readIntegerWidth_eq (ds : List Char) : readIntegerWidth ds =
    if ds = [] ∨ (8 ∣ number ds ∧ 8 ≤ number ds ∧ number ds ≤ 256) then
      .ok (if ds = [] then 256 else number ds)
    else .error (.integerWidth (String.ofList ds)) := by
  cases ds with
  | nil => rfl
  | cons c ds => simp [readIntegerWidth, Nat.dvd_iff_mod_eq_zero]

theorem readBase_eq (s : Spelling) : readBase s.keyword s.width =
    match s.widthFault with
    | none => .ok s.base
    | some fault => .error fault := by
  obtain ⟨keyword, width, lengths⟩ := s
  cases keyword with
  | uint | int =>
    simp only [readBase, readIntegerWidth_eq, Spelling.widthFault, Spelling.base]
    split <;> rfl
  | bytes =>
    simp only [readBase, readBytesLength, Spelling.widthFault, Spelling.base]
    by_cases hw : width = []
    · simp [hw]
    · simp only [hw, ↓reduceIte, false_or]
      split <;> rfl
  | _ => rfl

theorem readLength_eq (ds : List Char) : readLength ds =
    match Spelling.lengthFault ds with
    | none => .ok (if ds = [] then none else some (number ds))
    | some fault => .error fault := by
  cases ds with
  | nil => rfl
  | cons c ds =>
    have hmax : number (c :: ds) ≤ maxLength ↔ number (c :: ds) < 2 ^ 64 := by
      rw [show maxLength = 2 ^ 64 - 1 from rfl]
      omega
    simp only [readLength, Spelling.lengthFault, hmax, reduceCtorEq, false_or, ↓reduceIte]
    split <;> rfl

/-- Of the lengths out of range the first is told. -/
theorem readLengths_eq (lengths : List (List Char)) : readLengths lengths =
    match lengths.filterMap Spelling.lengthFault with
    | [] => .ok (lengths.map fun ds => if ds = [] then none else some (number ds))
    | fault :: _ => .error fault := by
  induction lengths with
  | nil => rfl
  | cons ds lengths ih =>
    rw [readLengths, readLength_eq, List.filterMap_cons]
    cases Spelling.lengthFault ds with
    | some fault => rfl
    | none =>
      rw [ih]
      cases lengths.filterMap Spelling.lengthFault <;> rfl

/-- Numbers are looked at from the left. -/
theorem Spelling.read_eq (s : Spelling) : s.read = s.verdict := by
  rw [read, readBase_eq, verdict, faults]
  cases s.widthFault with
  | some fault => rfl
  | none =>
    rw [readLengths_eq]
    dsimp only [Option.toList_none, List.nil_append]
    split <;> rfl

end Reading

section Parsing

variable {s : String}

theorem toList_trim (s : String) : (Text.trim s).toList = Text.trimChars s.toList :=
  String.toList_ofList

theorem parse_of_blank (h : Text.trim s = "") : parse s = .error .empty := by
  have hnil : Text.trimChars s.toList = [] := by rw [← toList_trim, h, String.toList_empty]
  rw [parse, parseChars, hnil]

/-- A text that is not blank is scanned before its numbers are looked at. -/
theorem parse_of_text (h : Text.trim s ≠ "") : parse s =
    match scan (Text.trim s).toList with
    | .error fault => .error (.outsideGrammar (Text.trim s).toList fault)
    | .ok spelling => spelling.verdict := by
  have hcons : (Text.trim s).toList ≠ [] := fun hnil => h (String.toList_eq_nil_iff.mp hnil)
  rw [toList_trim] at hcons ⊢
  rw [parse, parseChars]
  cases hc : Text.trimChars s.toList with
  | nil => exact absurd hc hcons
  | cons c cs =>
    cases hs : scan (c :: cs) with
    | error fault => simp only [hs]
    | ok form => simp only [hs, form.read_eq]

theorem parse_of_form {form : Spelling} (hf : form.Grammatical)
    (h : (Text.trim s).toList = form.chars) : parse s = form.verdict := by
  have hne : Text.trim s ≠ "" := by
    intro he
    rw [he] at h
    exact form.chars_ne_nil h.symm
  rw [parse_of_text hne, scan_eq_ok.mpr ⟨hf, h⟩]

/-- A text is blank, follows the grammar, or is outside it. -/
theorem parse_cases (s : String) :
    (Text.trim s = "" ∧ parse s = .error .empty) ∨
    (∃ form : Spelling, form.Grammatical ∧ (Text.trim s).toList = form.chars ∧
      parse s = form.verdict) ∨
    (Text.trim s ≠ "" ∧
      (¬∃ form : Spelling, form.Grammatical ∧ (Text.trim s).toList = form.chars) ∧
      ∃ fault, parse s = .error (.outsideGrammar (Text.trim s).toList fault)) := by
  by_cases hs : Text.trim s = ""
  · exact .inl ⟨hs, parse_of_blank hs⟩
  · have hp := parse_of_text hs
    cases hscan : scan (Text.trim s).toList with
    | ok form =>
      obtain ⟨hf, he⟩ := scan_eq_ok.mp hscan
      exact .inr (.inl ⟨form, hf, he, parse_of_form hf he⟩)
    | error fault =>
      rw [hscan] at hp
      refine .inr (.inr ⟨hs, ?_, fault, hp⟩)
      rintro ⟨form, hf⟩
      rw [scan_eq_ok.mpr hf] at hscan
      cases hscan

end Parsing

/-- Reading a type decides by the grammar: nothing but blanks is empty, and other text is outside
the grammar just when no spelling has its characters between the blanks. A spelling means what its
numbers say unless one is out of range, and then the first from the left is blamed. -/
theorem parse_decides (s : String) :
    (parse s = .error .empty ↔ Text.trim s = "") ∧
    ((∃ fault, parse s = .error (.outsideGrammar (Text.trim s).toList fault)) ↔
      Text.trim s ≠ "" ∧ ¬∃ form : Spelling, form.Grammatical ∧ (Text.trim s).toList = form.chars) ∧
    ∀ form : Spelling, form.Grammatical → (Text.trim s).toList = form.chars →
      parse s = form.verdict := by
  refine ⟨?_, ?_, fun form => parse_of_form⟩
  · refine ⟨fun hp => ?_, parse_of_blank⟩
    rcases parse_cases s with ⟨hs, _⟩ | ⟨form, _, _, hf⟩ | ⟨_, _, fault, hf⟩
    · exact hs
    · obtain ⟨ds, he | he | he⟩ := Spelling.fault_of_verdict (hf.symm.trans hp) <;> cases he
    · cases hf.symm.trans hp
  · rcases parse_cases s with ⟨hs, hf⟩ | ⟨form, hg, hc, hf⟩ | ⟨hs, hnone, hf⟩
    · refine ⟨?_, fun h => absurd hs h.1⟩
      rintro ⟨fault, hp⟩
      cases hf.symm.trans hp
    · refine ⟨?_, fun h => absurd ⟨form, hg, hc⟩ h.2⟩
      rintro ⟨fault, hp⟩
      obtain ⟨ds, he | he | he⟩ := Spelling.fault_of_verdict (hf.symm.trans hp) <;> cases he
    · exact ⟨fun _ => ⟨hs, hnone⟩, fun _ => hf⟩

/-- A width, a length with leading zeros, a dynamic array, and two lengths out of range. -/
def overlong : Spelling where
  keyword := .uint
  width := ['2', '4']
  lengths := [['0', '0', '7'], [], "18446744073709551616".toList, ['0']]

/-- Of two lengths out of range the first is blamed, digit by digit. -/
theorem parse_decides_overlong : overlong.Grammatical ∧
    (Text.trim "\t uint24[007][][18446744073709551616][0]\n").toList = overlong.chars ∧
    parse "\t uint24[007][][18446744073709551616][0]\n" =
      .error (.arrayLength "18446744073709551616") := by
  have hstem : Stem .uint ['2', '4'] :=
    .uint ⟨List.all_eq_true.mp (by decide), '2', ['4'], rfl, by decide⟩
  have hdigits : (overlong.lengths.all fun ds => ds.all (·.isDigit)) = true := by decide +kernel
  have hg : overlong.Grammatical :=
    ⟨hstem, fun ds hds => List.all_eq_true.mp (List.all_eq_true.mp hdigits ds hds)⟩
  have hc : (Text.trim "\t uint24[007][][18446744073709551616][0]\n").toList = overlong.chars := by
    decide +kernel
  have hv : overlong.verdict = .error (.arrayLength "18446744073709551616") := by decide +kernel
  exact ⟨hg, hc, ((parse_decides _).2.2 overlong hg hc).trans hv⟩

end TypeExpr

end AbiBindings
