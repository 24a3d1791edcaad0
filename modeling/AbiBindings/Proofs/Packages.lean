import AbiBindings.Failure
import AbiBindings.Proofs.AsciiNames
import AbiBindings.Proofs.TypeRoundTrip

namespace AbiBindings.ModulePath

inductive Separator where
  | dot
  | colons
  deriving DecidableEq, Repr

def Separator.chars : Separator → List Char
  | .dot => ['.']
  | .colons => [':', ':']

/-- A package as its first segment and the others, each with the separator before it. -/
structure Spelling where
  first : String
  rest : List (Separator × String)

namespace Spelling

def segments (s : Spelling) : List String := s.first :: s.rest.map (·.2)

def chars (s : Spelling) : List Char :=
  s.first.toList ++ s.rest.flatMap fun (separator, segment) => separator.chars ++ segment.toList

def text (s : Spelling) : String := String.ofList s.chars

def Proper (s : Spelling) : Prop := ∀ segment ∈ s.segments, IsIdentifier segment

/-- No separator stands within a segment. -/
structure Uncut (segment : List Char) : Prop where
  dot : '.' ∉ segment
  colons : ¬[':', ':'] <:+: segment

/-- Segments as they are cut from the left: where three colons stand in a row, the first two
separate. -/
inductive Cut : Spelling → Prop
  | one {segment : String} (h : Uncut segment.toList) : Cut ⟨segment, []⟩
  | more {segment next : String} {separator : Separator} {rest : List (Separator × String)}
      (h : Uncut segment.toList)
      (hend : separator = .colons → segment.toList.getLast? ≠ some ':')
      (hrest : Cut ⟨next, rest⟩) : Cut ⟨segment, (separator, next) :: rest⟩

end Spelling

theorem Spelling.Uncut.of_cons {c : Char} {segment : List Char} (h : Uncut (c :: segment)) :
    c ≠ '.' ∧ Uncut segment := by
  refine ⟨?_, ?_, ?_⟩
  · rintro rfl
    exact h.dot List.mem_cons_self
  · exact fun hm => h.dot (List.mem_cons_of_mem c hm)
  · exact fun hm => h.colons (hm.trans (List.suffix_cons c segment).isInfix)

section Splitting

variable {c : Char} {cs segment : List Char}

theorem splitSegments_ne_nil (cs : List Char) : splitSegments cs ≠ [] := by
  fun_cases splitSegments cs <;> simp

theorem splitSegments_cons (hdot : c ≠ '.') (hcolon : c = ':' → cs.head? ≠ some ':') :
    splitSegments (c :: cs) = (splitSegments cs).modifyHead (c :: ·) := by
  obtain ⟨first, more, hsplit⟩ := List.exists_cons_of_ne_nil (splitSegments_ne_nil cs)
  rw [splitSegments.eq_3]
  · simp [hdot, hsplit]
  · rintro rest rfl rfl
    exact hcolon rfl rfl

/-- A segment is not cut as long as no colon at its end goes with one behind it. -/
theorem splitSegments_append (h : Spelling.Uncut segment)
    (hend : cs.head? = some ':' → segment.getLast? ≠ some ':') :
    splitSegments (segment ++ cs) = (splitSegments cs).modifyHead (segment ++ ·) := by
  induction segment with
  | nil =>
    obtain ⟨first, more, hsplit⟩ := List.exists_cons_of_ne_nil (splitSegments_ne_nil cs)
    simp [hsplit]
  | cons c segment ih =>
    obtain ⟨hdot, hrest⟩ : c ≠ '.' ∧ Spelling.Uncut segment := h.of_cons
    have hcolon : c = ':' → (segment ++ cs).head? ≠ some ':' := by
      rintro rfl
      cases segment with
      | nil =>
        intro hhead
        exact hend hhead rfl
      | cons d segment =>
        intro hhead
        obtain rfl : d = ':' := by simpa using hhead
        exact h.colons (List.prefix_append [':', ':'] segment).isInfix
    have hend' : cs.head? = some ':' → segment.getLast? ≠ some ':' := by
      intro hhead hlast
      cases segment with
      | nil => cases hlast
      | cons d segment => exact hend hhead (by simpa using hlast)
    rw [List.cons_append, splitSegments_cons hdot hcolon, ih hrest hend', List.modifyHead_modifyHead]
    rfl

theorem splitSegments_separator (separator : Separator) (cs : List Char) :
    splitSegments (separator.chars ++ cs) = [] :: splitSegments cs := by
  cases separator with
  | dot => simp [Separator.chars, splitSegments]
  | colons => rfl

end Splitting

section Cutting

variable {s : Spelling}

namespace Spelling

theorem chars_one (segment : String) : chars ⟨segment, []⟩ = segment.toList := by
  simp [chars]

theorem chars_more (segment next : String) (separator : Separator)
    (rest : List (Separator × String)) :
    chars ⟨segment, (separator, next) :: rest⟩ =
      segment.toList ++ (separator.chars ++ chars ⟨next, rest⟩) := by
  simp [chars]

theorem segments_more (segment next : String) (separator : Separator)
    (rest : List (Separator × String)) :
    segments ⟨segment, (separator, next) :: rest⟩ = segment :: segments ⟨next, rest⟩ := rfl

/-- The segments of a spelling are cut apart again. -/
theorem Cut.split (h : s.Cut) : splitSegments s.chars = s.segments.map String.toList := by
  induction h with
  | one h =>
    rename_i segment
    have hsplit : splitSegments (segment.toList ++ []) = _ := splitSegments_append h (by simp)
    simpa [chars_one, segments, splitSegments] using hsplit
  | more h hend hrest ih =>
    rename_i segment next separator rest
    have hhead : (separator.chars ++ chars ⟨next, rest⟩).head? = some ':' →
        segment.toList.getLast? ≠ some ':' := by
      cases separator with
      | dot => simp [Separator.chars]
      | colons => exact fun _ => hend rfl
    rw [chars_more, splitSegments_append h hhead, splitSegments_separator, ih, segments_more]
    simp

theorem Uncut.cons {c : Char} {segment : List Char} (h : Uncut segment) (hdot : c ≠ '.')
    (hcolon : c = ':' → segment.head? ≠ some ':') : Uncut (c :: segment) := by
  refine ⟨?_, ?_⟩
  · simpa [Ne.symm hdot] using h.dot
  · intro hwithin
    rcases List.infix_cons_iff.mp hwithin with hprefix | hwithin
    · obtain ⟨hc, hrest⟩ := List.cons_prefix_cons.mp hprefix
      obtain ⟨rest, rfl⟩ := hrest
      exact hcolon hc.symm rfl
    · exact h.colons hwithin

/-- A sign before a spelling goes to its first segment unless it makes a separator. -/
theorem Cut.cons {c : Char} (h : s.Cut) (hdot : c ≠ '.')
    (hcolon : c = ':' → s.chars.head? ≠ some ':') :
    ∃ s' : Spelling, s'.Cut ∧ s'.chars = c :: s.chars := by
  cases h with
  | one h =>
    rename_i segment
    rw [chars_one] at hcolon
    have huncut : Uncut (String.ofList (c :: segment.toList)).toList := by
      simpa using h.cons hdot hcolon
    exact ⟨⟨_, []⟩, .one huncut, by simp [chars_one]⟩
  | more h hend hrest =>
    rename_i segment next separator rest
    rw [chars_more] at hcolon
    have hhead : c = ':' → segment.toList.head? ≠ some ':' := by
      intro hc hs
      exact hcolon hc (by simp [hs])
    have huncut : Uncut (String.ofList (c :: segment.toList)).toList := by
      simpa using h.cons hdot hhead
    refine ⟨⟨_, (separator, next) :: rest⟩, .more huncut ?_ hrest, by simp [chars_more]⟩
    intro hseparator hlast
    rw [String.toList_ofList] at hlast
    cases hs : segment.toList with
    | nil =>
      -- The sign would be the first of three colons, of which the first two separate.
      obtain rfl : c = ':' := by simpa [hs] using hlast
      exact hcolon rfl (by simp [hs, hseparator, Separator.chars])
    | cons d ds =>
      refine hend hseparator ?_
      simpa [hs] using hlast

theorem Cut.after_separator (h : s.Cut) (separator : Separator) :
    ∃ s' : Spelling, s'.Cut ∧ s'.chars = separator.chars ++ s.chars := by
  have hempty : Uncut "".toList := ⟨by simp, by simp⟩
  exact ⟨⟨"", (separator, s.first) :: s.rest⟩, .more hempty (by simp) h, by simp [chars_more]⟩

/-- Every text is cut in some way. -/
theorem exists_cut (cs : List Char) : ∃ s : Spelling, s.Cut ∧ s.chars = cs := by
  fun_induction splitSegments cs with
  | case1 => exact ⟨⟨"", []⟩, .one ⟨by simp, by simp⟩, rfl⟩
  | case2 cs ih =>
    obtain ⟨s, hs, rfl⟩ := ih
    exact hs.after_separator .colons
  | case3 cs _ ih =>
    obtain ⟨s, hs, rfl⟩ := ih
    exact hs.after_separator .dot
  | case4 c cs hpair hdot _ ih | case5 c cs hpair hdot _ _ _ ih =>
    obtain ⟨s, hs, rfl⟩ := ih
    refine hs.cons hdot ?_
    intro hc hhead
    obtain ⟨rest, hrest⟩ := List.head?_eq_some_iff.mp hhead
    exact hpair rest hc hrest

end Spelling

end Cutting

section Names

variable {segment : String} {segments : List String}

theorem isStart_iff {c : Char} :
    isStart c = true ↔ Text.isAsciiWordChar c = true ∧ c.isDigit = false := by
  have hletter : c.isAlpha = true → c.isDigit = false := by
    intro ha
    have hlt : c.toNat < 0x80 := Text.lt_of_isAlphanum (by simp [Char.isAlphanum, ha])
    exact Text.ascii_cases (fun c => c.isAlpha = true → c.isDigit = false) (by decide +kernel) hlt ha
  have hunderscore : c = '_' → c.isDigit = false := by
    rintro rfl
    rfl
  simp only [isStart, Text.isAsciiWordChar, Char.isAlphanum, Bool.or_eq_true, decide_eq_true_eq]
  grind

/-- The reader of packages takes identifiers for names, and keywords with them. -/
theorem isName_iff : isName segment.toList = true ↔ HasIdentifierForm segment := by
  cases hcs : segment.toList with
  | nil =>
    have hempty : segment = "" := String.toList_eq_nil_iff.mp hcs
    simp only [isName, Bool.false_eq_true, false_iff]
    exact fun h => h.nonempty hempty
  | cons c cs =>
    have hunderscore : segment ≠ "_" ↔ c :: cs ≠ ['_'] := by
      rw [← hcs, ne_eq, ne_eq, ← String.toList_inj]
      rfl
    have hne : segment ≠ "" := by
      rintro rfl
      cases hcs
    simp only [isName, Bool.and_eq_true, isStart_iff, List.all_eq_true, decide_eq_true_eq]
    constructor
    · rintro ⟨⟨⟨hc, hdigit⟩, hrest⟩, hnot⟩
      refine ⟨hne, ?_, by simpa [hcs] using hdigit, hunderscore.mpr hnot⟩
      rw [IsAsciiWord, hcs]
      exact List.forall_mem_cons.mpr ⟨hc, hrest⟩
    · rintro ⟨_, hword, hdigit, hnot⟩
      rw [IsAsciiWord, hcs] at hword
      obtain ⟨hc, hrest⟩ := List.forall_mem_cons.mp hword
      exact ⟨⟨⟨hc, by simpa [hcs] using hdigit⟩, hrest⟩, hunderscore.mp hnot⟩

def blame (segment : String) : Fault :=
  if isKeyword segment then .keyword segment else .notName segment

theorem checkSegment_eq (segment : String) : checkSegment segment =
    if IsIdentifier segment then .ok () else .error (blame segment) := by
  have hkeywords : ∀ keyword ∈ keywords, isName keyword.toList = true := by decide +kernel
  have hname : isKeyword segment = true → isName segment.toList = true := by
    intro hk
    exact hkeywords segment (by simpa [isKeyword] using hk)
  have hidentifier : IsIdentifier segment ↔ isName segment.toList = true ∧
      isKeyword segment = false := by
    rw [isName_iff]
    exact ⟨fun h => ⟨h.toHasIdentifierForm, h.notKeyword⟩, fun h => ⟨h.1, h.2⟩⟩
  rw [checkSegment, blame]
  grind

/-- Segments pass when each of them is an identifier. -/
theorem checkSegments_ok_iff :
    checkSegments segments = .ok () ↔ ∀ segment ∈ segments, IsIdentifier segment := by
  induction segments with
  | nil => simp [checkSegments]
  | cons segment segments ih =>
    rw [checkSegments, checkSegment_eq, List.forall_mem_cons]
    by_cases h : IsIdentifier segment
    · simp [h, ih]
    · simp [h]

/-- The first segment that is no identifier is blamed. -/
theorem checkSegments_blame {before after : List String}
    (hbefore : ∀ segment ∈ before, IsIdentifier segment) (h : ¬IsIdentifier segment) :
    checkSegments (before ++ segment :: after) = .error (blame segment) := by
  induction before with
  | nil => rw [List.nil_append, checkSegments, checkSegment_eq, if_neg h]
  | cons first before ih =>
    obtain ⟨hfirst, hrest⟩ := List.forall_mem_cons.mp hbefore
    rw [List.cons_append, checkSegments, checkSegment_eq, if_pos hfirst]
    exact ih hrest

end Names

section Parsing

variable {s : Spelling} {package : String} {m : ModulePath}

theorem Spelling.Proper.cut (h : s.Proper) : s.Cut := by
  have hplain : ∀ {segment : String} {c : Char}, IsIdentifier segment →
      Text.isAsciiWordChar c = false → c ∉ segment.toList := by
    intro segment c hs hc hm
    rw [hs.word c hm] at hc
    cases hc
  have huncut : ∀ {segment : String}, IsIdentifier segment → Uncut segment.toList := by
    intro segment hs
    refine ⟨hplain hs (by decide), fun hwithin => ?_⟩
    exact hplain (c := ':') hs (by decide) (hwithin.subset List.mem_cons_self)
  obtain ⟨first, rest⟩ := s
  induction rest generalizing first with
  | nil => exact .one (huncut (h first List.mem_cons_self))
  | cons next rest ih =>
    obtain ⟨hfirst, hrest⟩ := List.forall_mem_cons.mp h
    refine .more (huncut hfirst) (fun _ hlast => ?_) (ih next.2 hrest)
    exact hplain hfirst (by decide) (List.mem_of_getLast? hlast)

theorem Spelling.Proper.not_isBlank (h : s.Proper) : ∀ c ∈ s.chars, Text.isBlank c = false := by
  have hsegment : ∀ segment ∈ s.segments, ∀ c ∈ segment.toList, Text.isBlank c = false := by
    intro segment hs c hc
    have hword := (h segment hs).word c hc
    have hlt : c.toNat < 0x80 := by
      simp only [Text.isAsciiWordChar, Bool.or_eq_true, decide_eq_true_eq] at hword
      rcases hword with ha | rfl
      · exact Text.lt_of_isAlphanum ha
      · decide
    exact Text.ascii_cases (fun c => Text.isAsciiWordChar c = true → Text.isBlank c = false)
      (by decide +kernel) hlt hword
  have hseparator : ∀ separator : Separator, ∀ c ∈ separator.chars, Text.isBlank c = false := by
    intro separator
    have hdot : Text.isBlank '.' = false := by decide
    have hcolon : Text.isBlank ':' = false := by decide
    cases separator <;> simp [Separator.chars, hdot, hcolon]
  obtain ⟨hfirst, hrest⟩ := List.forall_mem_cons.mp hsegment
  simp only [chars, List.forall_mem_append, List.forall_mem_flatMap]
  refine ⟨hfirst, fun next hnext => ⟨hseparator next.1, ?_⟩⟩
  exact hrest next.2 (List.mem_map_of_mem hnext)

theorem Spelling.Proper.chars_ne_nil (h : s.Proper) : s.chars ≠ [] := by
  have hfirst := (h s.first List.mem_cons_self).nonempty
  simp [chars, hfirst]

theorem Spelling.Proper.trim_text (h : s.Proper) : (Text.trim s.text).toList = s.chars := by
  have hbetween : Text.trimChars ([] ++ s.chars ++ []) = s.chars :=
    Text.trimChars_between (by simp) h.not_isBlank (by simp)
  rw [TypeExpr.toList_trim, text, String.toList_ofList]
  simpa using hbetween

/-- A package between blanks is judged by its segments. -/
theorem parse_of_cut (hs : s.Cut) (h : (Text.trim package).toList = s.chars)
    (hne : Text.trim package ≠ "") : parse package =
      ((checkSegments s.segments).map fun () => ⟨s.segments⟩).mapError
        (.invalidPackage (Text.trim package)) := by
  have hsegments : (splitSegments (Text.trim package).toList).map String.ofList = s.segments := by
    rw [h, hs.split, List.map_map]
    simp [Function.comp_def]
  simp only [parse, ofTrimmed, if_neg hne, hsegments]

theorem parse_of_proper (hs : s.Proper) (h : (Text.trim package).toList = s.chars) :
    parse package = .ok ⟨s.segments⟩ := by
  have hne : Text.trim package ≠ "" := by
    intro hempty
    exact hs.chars_ne_nil (by rw [← h, hempty, String.toList_empty])
  rw [parse_of_cut hs.cut h hne, checkSegments_ok_iff.mpr hs]
  rfl

theorem parse_of_blank (h : Text.trim package = "") :
    parse package = .error (.invalidPackage "" .empty) := by
  simp only [parse, ofTrimmed, h, if_pos]
  rfl

/-- The package is refused with an error that shows it without the blanks around it. -/
def Rejected (package : String) : Prop :=
  ∃ fault, parse package = .error (.invalidPackage (Text.trim package) fault)

/-- The first segment that is no identifier is blamed. -/
theorem parse_of_bad_segment {before after : List String} {segment : String} (hs : s.Cut)
    (h : (Text.trim package).toList = s.chars) (hne : Text.trim package ≠ "")
    (hsegments : s.segments = before ++ segment :: after)
    (hbefore : ∀ segment ∈ before, IsIdentifier segment) (hbad : ¬IsIdentifier segment) :
    parse package = .error (.invalidPackage (Text.trim package) (blame segment)) := by
  rw [parse_of_cut hs h hne, hsegments, checkSegments_blame hbefore hbad]
  rfl

/-- A package has a proper spelling, which is read, or it is refused. -/
theorem parse_cases (package : String) :
    (∃ s : Spelling, s.Proper ∧ (Text.trim package).toList = s.chars ∧
      parse package = .ok ⟨s.segments⟩) ∨
    (Rejected package ∧ ¬∃ s : Spelling, s.Proper ∧ (Text.trim package).toList = s.chars) := by
  by_cases hproper : ∃ s : Spelling, s.Proper ∧ (Text.trim package).toList = s.chars
  · obtain ⟨s, hs, hc⟩ := hproper
    exact .inl ⟨s, hs, hc, parse_of_proper hs hc⟩
  · refine .inr ⟨?_, hproper⟩
    by_cases hne : Text.trim package = ""
    · exact ⟨.empty, by rw [hne, parse_of_blank hne]⟩
    · obtain ⟨s, hs, hc⟩ := Spelling.exists_cut (Text.trim package).toList
      cases hchecked : checkSegments s.segments with
      | ok =>
        exact absurd ⟨s, checkSegments_ok_iff.mp hchecked, hc.symm⟩ hproper
      | error fault =>
        exact ⟨fault, by rw [parse_of_cut hs hc.symm hne, hchecked]; rfl⟩

theorem identifiers_of_parse (h : parse package = .ok m) :
    ∀ segment ∈ m.segments, IsIdentifier segment := by
  rcases parse_cases package with ⟨s, hs, _, hp⟩ | ⟨⟨fault, hp⟩, _⟩
  · obtain rfl := Except.ok.inj (h.symm.trans hp)
    exact hs
  · cases h.symm.trans hp

/-- The text of a module path joins its segments with pairs of colons. -/
theorem text_segments (s : Spelling) : ModulePath.text ⟨s.segments⟩ =
    Spelling.text ⟨s.first, s.rest.map fun next => (.colons, next.2)⟩ := by
  obtain ⟨first, rest⟩ := s
  simp only [ModulePath.text, Spelling.text, Spelling.segments]
  induction rest generalizing first with
  | nil => simp [Spelling.chars]
  | cons next rest ih =>
    have hstep := ih next.2
    simp only [List.map_cons, String.intercalate_cons_cons] at hstep ⊢
    rw [hstep, Spelling.chars_more, ← String.toList_inj]
    simp [Separator.chars]

theorem Spelling.Proper.parse_text (h : s.Proper) :
    parse (ModulePath.text ⟨s.segments⟩) = .ok ⟨s.segments⟩ := by
  have hcolons : Spelling.Proper ⟨s.first, s.rest.map fun next => (.colons, next.2)⟩ := by
    simpa [Spelling.Proper, segments] using h
  rw [text_segments, parse_of_proper hcolons hcolons.trim_text]
  simp [segments]

end Parsing

/-- A package is read just when, between blanks, identifiers stand in a row with a dot or two colons
between any two of them, and then it has these segments. The text of what was read is read alike. Any
other package is refused, for the first segment that is no identifier when it is cut from the left. -/
theorem packages_decided :
    (∀ package m, parse package = .ok m ↔ ∃ s : Spelling, s.Proper ∧
      (Text.trim package).toList = s.chars ∧ m.segments = s.segments) ∧
    (∀ s : Spelling, s.Proper → parse s.text = .ok ⟨s.segments⟩) ∧
    (∀ package m, parse package = .ok m → parse m.text = .ok m) ∧
    (∀ package, (¬∃ s : Spelling, s.Proper ∧ (Text.trim package).toList = s.chars) →
      Rejected package) ∧
    ∀ package (s : Spelling) before segment after, s.Cut →
      (Text.trim package).toList = s.chars → Text.trim package ≠ "" →
      s.segments = before ++ segment :: after → (∀ earlier ∈ before, IsIdentifier earlier) →
      ¬IsIdentifier segment →
      parse package = .error (.invalidPackage (Text.trim package) (blame segment)) := by
  refine ⟨fun package m => ⟨fun hp => ?_, ?_⟩, ?_, fun package m hp => ?_, fun package hnone => ?_, ?_⟩
  · rcases parse_cases package with ⟨s, hs, hc, hp'⟩ | ⟨⟨fault, hp'⟩, _⟩
    · exact ⟨s, hs, hc, congrArg segments (Except.ok.inj (hp.symm.trans hp'))⟩
    · cases hp.symm.trans hp'
  · rintro ⟨s, hs, hc, hm⟩
    rw [parse_of_proper hs hc, ← hm]
  · exact fun s hs => parse_of_proper hs hs.trim_text
  · rcases parse_cases package with ⟨s, hs, _, hp'⟩ | ⟨⟨fault, hp'⟩, _⟩
    · obtain rfl := Except.ok.inj (hp.symm.trans hp')
      exact hs.parse_text
    · cases hp.symm.trans hp'
  · rcases parse_cases package with ⟨s, hs, hc, _⟩ | ⟨hrejected, _⟩
    · exact absurd ⟨s, hs, hc⟩ hnone
    · exact hrejected
  · exact fun package s before segment after hs => parse_of_bad_segment hs

section Mixed

def mixed : Spelling := ⟨"_org", [(.dot, "x9"), (.colons, "Tokens")]⟩

theorem mixed_proper : mixed.Proper := by
  have hall : ∀ segment ∈ mixed.segments, IsIdentifier segment := by decide +kernel
  exact hall

/-- A package with either separator is read. Of three colons the first two separate, a single one does
not, and neither an empty segment nor a keyword names a module. -/
theorem packages_decided_mixed :
    mixed.Proper ∧ parse "\t_org.x9::Tokens " = .ok ⟨["_org", "x9", "Tokens"]⟩ ∧
    parse "a:b" = .error (.invalidPackage "a:b" (.notName "a:b")) ∧
    parse "a:::b" = .error (.invalidPackage "a:::b" (.notName ":b")) ∧
    parse "a..b" = .error (.invalidPackage "a..b" (.notName "")) ∧
    parse "a.type." = .error (.invalidPackage "a.type." (.keyword "type")) := by
  obtain ⟨hread, _, _, _, hrefused⟩ := packages_decided
  have ha : Spelling.Uncut "a".toList := ⟨by decide, by decide⟩
  have hone : ∀ segment ∈ ["a"], IsIdentifier segment := by decide +kernel
  refine ⟨mixed_proper, ?_, ?_, ?_, ?_, ?_⟩
  · exact (hread _ _).mpr ⟨mixed, mixed_proper, by decide +kernel, rfl⟩
  · exact hrefused "a:b" ⟨"a:b", []⟩ [] "a:b" [] (.one ⟨by decide, by decide⟩) (by decide +kernel)
      (by decide +kernel) rfl (by simp) (by decide +kernel)
  · exact hrefused "a:::b" ⟨"a", [(.colons, ":b")]⟩ ["a"] ":b" []
      (.more ha (by decide) (.one ⟨by decide, by decide⟩)) (by decide +kernel) (by decide +kernel)
      rfl hone (by decide +kernel)
  · exact hrefused "a..b" ⟨"a", [(.dot, ""), (.dot, "b")]⟩ ["a"] "" ["b"]
      (.more ha (by simp) (.more ⟨by simp, by simp⟩ (by simp) (.one ⟨by decide, by decide⟩)))
      (by decide +kernel) (by decide +kernel) rfl hone (by decide +kernel)
  · exact hrefused "a.type." ⟨"a", [(.dot, "type"), (.dot, "")]⟩ ["a"] "type" [""]
      (.more ha (by simp) (.more ⟨by decide, by decide⟩ (by simp) (.one ⟨by simp, by simp⟩)))
      (by decide +kernel) (by decide +kernel) rfl hone (by decide +kernel)

end Mixed

end AbiBindings.ModulePath
