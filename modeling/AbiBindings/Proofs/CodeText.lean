import AbiBindings.Proofs.Brackets
import AbiBindings.Proofs.PageRows

namespace AbiBindings

/-- Where in generated code a reader is. -/
inductive Reading where
  | code
  | literal
  /-- In a literal, behind a backslash. -/
  | escape
  deriving DecidableEq, Repr

namespace Reading

def next : Reading → Char → Reading
  | .code, c => if c = '"' then .literal else .code
  | .literal, c => if c = '"' then .code else if c = '\\' then .escape else .literal
  | .escape, _ => .literal

/-- Of a literal only the quotes are left. -/
def shows : Reading → Char → Bool
  | .code, _ => true
  | .literal, c => c = '"'
  | .escape, _ => false

end Reading

/-- Text without the contents of its double-quoted literals, and where the reader is after it. -/
def readCode (reading : Reading) : List Char → List Char × Reading
  | [] => ([], reading)
  | c :: cs =>
    let (rest, last) := readCode (reading.next c) cs
    (if reading.shows c then c :: rest else rest, last)

def isCommentLine (line : List Char) : Bool :=
  ['/', '/'].isPrefixOf (line.dropWhile fun c => c = ' ' || c = '\t')

def codeLines (text : List Char) : List (List Char) :=
  (Text.splitWhere (· == '\n') text).filter fun line => !isCommentLine line

def withoutComments (text : List Char) : List Char := (codeLines text).flatMap (· ++ ['\n'])

/-- In what is left of a text without comment lines and without the contents of its literals, of
which none is left open, brackets are balanced and properly nested. -/
structure WellNested (text : String) : Prop where
  literals : (readCode .code (withoutComments text.toList)).2 = .code
  brackets : Nested (readCode .code (withoutComments text.toList)).1

section Reading

variable {xs ys : List Char}

/-- The second part of a text is read from where the first leaves the reader. -/
theorem readCode_append (reading : Reading) (xs ys : List Char) :
    readCode reading (xs ++ ys) =
      ((readCode reading xs).1 ++ (readCode (readCode reading xs).2 ys).1,
        (readCode (readCode reading xs).2 ys).2) := by
  induction xs generalizing reading with
  | nil => rfl
  | cons c xs ih =>
    simp only [List.cons_append, readCode, ih]
    split <;> rfl

/-- Code without quotes is read as it is. -/
theorem readCode_code (h : '"' ∉ xs) : readCode .code xs = (xs, .code) := by
  induction xs with
  | nil => rfl
  | cons c xs ih =>
    rw [List.mem_cons, not_or] at h
    simp only [readCode, Reading.next, if_neg (Ne.symm h.1), ih h.2, Reading.shows, ↓reduceIte]

/-- Signs of a literal that are neither quotes nor backslashes. -/
theorem readCode_literal (h : ∀ c ∈ xs, c ≠ '"' ∧ c ≠ '\\') :
    readCode .literal xs = ([], .literal) := by
  induction xs with
  | nil => rfl
  | cons c xs ih =>
    obtain ⟨hc, hxs⟩ := List.forall_mem_cons.mp h
    simp [readCode, Reading.next, Reading.shows, hc.1, hc.2, ih hxs]

end Reading

namespace Text

/-- An escaped character neither shows nor ends the literal that it stands in. -/
theorem readCode_escapeChar (c : Char) : readCode .literal (escapeChar c) = ([], .literal) := by
  simp only [escapeChar]
  split
  · rfl
  split
  · rfl
  split
  · rfl
  split
  · rfl
  split
  · rfl
  split
  · rfl
  rename_i hquote hbackslash _ _ _ _
  split
  · have hdigits : readCode .literal (Nat.toDigits 16 c.toNat) = ([], .literal) := by
      refine readCode_literal fun c hc => ?_
      rcases mem_toDigitsCore hc with hc | ⟨d, rfl⟩
      · cases hc
      · exact forall_digitChar (P := fun c => c ≠ '"' ∧ c ≠ '\\') (by decide) d
    have hopen : readCode .literal ['\\', 'u', '\x7b'] = ([], .literal) := rfl
    have hclose : readCode .literal ['\x7d'] = ([], .literal) := rfl
    simp only [readCode_append, hopen, hdigits, hclose, List.nil_append]
  · exact readCode_literal (List.forall_mem_singleton.mpr ⟨hquote, hbackslash⟩)

/-- Of a literal the quotes are left, whatever it holds. -/
theorem readCode_quoted (s : String) :
    readCode .code (quoted s).toList = (['"', '"'], .code) := by
  have hinside : readCode .literal (s.toList.flatMap escapeChar) = ([], .literal) := by
    induction s.toList with
    | nil => rfl
    | cons c cs ih => simp only [List.flatMap_cons, readCode_append, readCode_escapeChar, ih,
        List.nil_append]
  rw [quoted, String.toList_ofList, List.cons_append]
  simp only [readCode, Reading.next, readCode_append, hinside, Reading.shows, ↓reduceIte,
    List.nil_append, decide_true]

theorem splitWhere_piece {isBorder : Char → Bool} {piece rest : List Char} {c : Char}
    (hp : ∀ d ∈ piece, isBorder d = false) (hc : isBorder c = true) :
    splitWhere isBorder (piece ++ c :: rest) = piece :: splitWhere isBorder rest := by
  induction piece with
  | nil => simp [splitWhere, hc]
  | cons d piece ih =>
    obtain ⟨hd, hrest⟩ := List.forall_mem_cons.mp hp
    simp [splitWhere, hd, ih hrest]

end Text

def IsIndentation (cs : List Char) : Prop := ∀ c ∈ cs, c = ' ' ∨ c = '\t'

namespace IsIndentation

variable {cs : List Char}

theorem not_mem (h : IsIndentation cs) {c : Char} (hc : c ≠ ' ' ∧ c ≠ '\t') : c ∉ cs :=
  fun hm => (h c hm).elim hc.1 hc.2

theorem read (h : IsIndentation cs) : readCode .code cs = (cs, .code) :=
  readCode_code (h.not_mem (by decide))

theorem opened (h : IsIndentation cs) (xs : List Bracket) : openAfter xs cs = some xs := by
  refine openAfter_plain fun c hc b => ?_
  rcases h c hc with rfl | rfl <;> cases b <;> decide

/-- Indentation is dropped whole. -/
theorem dropWhile_append (h : IsIndentation cs) (rest : List Char) :
    (cs ++ rest).dropWhile (fun c => c = ' ' || c = '\t') =
      rest.dropWhile fun c => c = ' ' || c = '\t' :=
  List.dropWhile_append_of_pos (by simpa [IsIndentation] using h)

end IsIndentation

section Lines

variable {line rest indentation : List Char}

theorem withoutComments_line (h : '\n' ∉ line) : withoutComments (line ++ '\n' :: rest) =
    (if isCommentLine line then [] else line ++ ['\n']) ++ withoutComments rest := by
  have hpiece : ∀ c ∈ line, (c == '\n') = false := by
    intro c hc
    rw [beq_eq_false_iff_ne]
    rintro rfl
    exact h hc
  simp only [withoutComments, codeLines, Text.splitWhere_piece hpiece (beq_self_eq_true '\n'),
    List.filter_cons]
  cases isCommentLine line <;> rfl

theorem mem_of_isCommentLine (h : isCommentLine line = true) : '/' ∈ line := by
  rw [isCommentLine, List.isPrefixOf_iff_prefix] at h
  exact (List.dropWhile_suffix _).subset (h.subset List.mem_cons_self)

/-- Past the indentation, the first sign shows that a line is no comment. -/
theorem isCommentLine_eq_false {c : Char} (hi : IsIndentation indentation)
    (hc : c ≠ ' ' ∧ c ≠ '\t' ∧ c ≠ '/') : isCommentLine (indentation ++ c :: rest) = false := by
  have hfirst : (c :: rest).dropWhile (fun d => d = ' ' || d = '\t') = c :: rest := by
    simp [hc.1, hc.2.1]
  rw [isCommentLine, hi.dropWhile_append, hfirst, List.isPrefixOf_cons_cons,
    beq_eq_false_iff_ne.mpr (Ne.symm hc.2.2), Bool.false_and]

theorem isCommentLine_of_slashes (hi : IsIndentation indentation) (h : ['/', '/'] <+: line) :
    isCommentLine (indentation ++ line) = true := by
  obtain ⟨rest, rfl⟩ := h
  rw [isCommentLine, hi.dropWhile_append]
  rfl

end Lines

/-- Text of whole lines that leaves other brackets open than it finds, for a reader who passes over
comments and the contents of literals. -/
def Written (text : List Char) (before after : List Bracket) : Prop :=
  ∃ kept shown, (∀ rest, withoutComments (text ++ rest) = kept ++ withoutComments rest) ∧
    readCode .code kept = (shown, .code) ∧ openAfter before shown = some after

namespace Written

variable {text text' : List Char} {xs ys zs : List Bracket}

theorem nil (xs : List Bracket) : Written [] xs xs := ⟨[], [], fun _ => rfl, rfl, rfl⟩

theorem append (h : Written text xs ys) (h' : Written text' ys zs) :
    Written (text ++ text') xs zs := by
  obtain ⟨kept, shown, hkept, hread, hopen⟩ := h
  obtain ⟨kept', shown', hkept', hread', hopen'⟩ := h'
  refine ⟨kept ++ kept', shown ++ shown', ?_, ?_, openAfter_append hopen hopen'⟩
  · intro rest
    rw [List.append_assoc, hkept, hkept', List.append_assoc]
  · rw [readCode_append, hread, hread']

theorem frame (h : Written text xs ys) (outer : List Bracket) :
    Written text (xs ++ outer) (ys ++ outer) := by
  obtain ⟨kept, shown, hkept, hread, hopen⟩ := h
  exact ⟨kept, shown, hkept, hread, openAfter_frame hopen outer⟩

theorem wellNested {text : String} (h : Written text.toList [] []) : WellNested text := by
  obtain ⟨kept, shown, hkept, hread, hopen⟩ := h
  have hempty : withoutComments [] = ['\n'] := rfl
  have htext : withoutComments text.toList = kept ++ ['\n'] := by
    rw [← List.append_nil text.toList, hkept, hempty]
  have hend : readCode .code ['\n'] = (['\n'], .code) := rfl
  constructor
  · rw [htext, readCode_append, hread, hend]
  · rw [htext, readCode_append, hread, hend]
    exact nested_of_openAfter (openAfter_append hopen rfl)

/-- A line of code does to the open brackets what its text outside literals does. -/
theorem line {line shown : List Char} (hl : '\n' ∉ line) (hc : isCommentLine line = false)
    (hr : readCode .code line = (shown, .code)) (ho : openAfter xs shown = some ys) :
    Written (line ++ ['\n']) xs ys := by
  refine ⟨line ++ ['\n'], shown ++ ['\n'], fun rest => ?_, ?_, openAfter_append ho rfl⟩
  · rw [List.append_assoc, List.singleton_append, withoutComments_line hl, hc]
    rfl
  · rw [readCode_append, hr]
    rfl

theorem comment {line : List Char} (hl : '\n' ∉ line) (hc : isCommentLine line = true)
    (xs : List Bracket) : Written (line ++ ['\n']) xs xs := by
  refine ⟨[], [], fun rest => ?_, rfl, rfl⟩
  rw [List.append_assoc, List.singleton_append, withoutComments_line hl, hc]
  rfl

end Written

def BeginsComment (text : String) : Prop := ['/', '/'] <+: text.toList

theorem BeginsComment.append {text : String} (h : BeginsComment text) (rest : String) :
    BeginsComment (text ++ rest) := by
  rw [BeginsComment, String.toList_append]
  exact h.trans (List.prefix_append _ _)

/-- What a line does to the open brackets. It is a comment, or code with one literal at most. -/
inductive LineCode : String → List Bracket → List Bracket → Prop
  | code {text : String} {xs ys : List Bracket} (h : Code text xs ys) : LineCode text xs ys
  | comment {text : String} (h : BeginsComment text) (xs : List Bracket) : LineCode text xs xs
  | literal {before after : String} {c : Char} {cs : List Char} {xs ys zs : List Bracket}
    (s : String) (hc : before.toList = c :: cs ∧ c ≠ ' ' ∧ c ≠ '\t') (hb : Code before xs ys)
    (ha : Code after ys zs) : LineCode (before ++ Text.quoted s ++ after) xs zs

theorem Code.read {s : String} {xs ys : List Bracket} (h : Code s xs ys) :
    readCode .code s.toList = (s.toList, .code) :=
  readCode_code fun hm => by simpa [isCodeSign] using h.signs _ hm

theorem Code.no_slash {s : String} {xs ys : List Bracket} (h : Code s xs ys) : '/' ∉ s.toList :=
  fun hm => by simpa [isCodeSign] using h.signs _ hm

namespace Pen

def Blank (pen : Pen) : Prop := IsIndentation pen.unit.toList

variable {pen : Pen} {text : String} {xs ys : List Bracket}

/-- A pen puts nothing but indentation before a line. -/
theorem lineText_blank (hp : pen.Blank) (text : String) : ∃ indentation : List Char,
    IsIndentation indentation ∧
      (pen.lineText text).toList = indentation ++ text.toList ++ ['\n'] := by
  unfold lineText
  split
  · rename_i he
    exact ⟨[], by simp [IsIndentation], by simp [he]⟩
  · refine ⟨pen.indentation.toList, fun c hc => ?_, by simp⟩
    rw [indentation, String.toList_join, List.mem_flatMap] at hc
    obtain ⟨unit, hu, hc⟩ := hc
    rw [List.eq_of_mem_replicate hu] at hc
    exact hp c hc

theorem written_line (h : LineCode text xs ys) (ht : Unbroken text) (hp : pen.Blank) :
    Written (pen.lineText text).toList xs ys := by
  obtain ⟨indentation, hi, hline⟩ := lineText_blank hp text
  have hunbroken : '\n' ∉ indentation ++ text.toList := by
    rw [List.mem_append, not_or]
    exact ⟨hi.not_mem (by decide), ht⟩
  rw [hline]
  cases h with
  | code h =>
    have hcomment : isCommentLine (indentation ++ text.toList) = false := by
      refine Bool.eq_false_iff.mpr fun hc => ?_
      rcases List.mem_append.mp (mem_of_isCommentLine hc) with hm | hm
      · exact hi.not_mem (by decide) hm
      · exact h.no_slash hm
    refine .line hunbroken hcomment ?_ (openAfter_append (hi.opened xs) h.opened)
    rw [readCode_append, hi.read, h.read]
  | comment h => exact .comment hunbroken (isCommentLine_of_slashes hi h) _
  | @literal before after c cs _ between _ s hc hb ha =>
    obtain ⟨hbefore, hspace, htab⟩ := hc
    have hslash : c ≠ '/' := by
      rintro rfl
      exact hb.no_slash (hbefore ▸ List.mem_cons_self)
    have hcomment : isCommentLine
        (indentation ++ (before ++ Text.quoted s ++ after).toList) = false := by
      rw [String.toList_append, String.toList_append, hbefore]
      exact isCommentLine_eq_false hi ⟨hspace, htab, hslash⟩
    have hquotes : openAfter between ['"', '"'] = some between := rfl
    refine .line hunbroken hcomment ?_ (openAfter_append (hi.opened xs)
      (openAfter_append (openAfter_append hb.opened hquotes) ha.opened))
    rw [String.toList_append, String.toList_append, readCode_append, hi.read, readCode_append,
      readCode_append, hb.read, Text.readCode_quoted, ha.read]

end Pen

end AbiBindings
