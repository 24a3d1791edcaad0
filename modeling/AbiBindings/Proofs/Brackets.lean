import AbiBindings.Proofs.Unbroken

namespace AbiBindings

inductive Bracket where
  | round
  | square
  | curly
  deriving DecidableEq, Repr

namespace Bracket

def opening : Bracket → Char
  | .round => '('
  | .square => '['
  | .curly => '\x7b'

def closing : Bracket → Char
  | .round => ')'
  | .square => ']'
  | .curly => '\x7d'

end Bracket

def IsPlain (c : Char) : Prop := ∀ b : Bracket, c ≠ b.opening ∧ c ≠ b.closing

/-- Text whose brackets are balanced and properly nested: what is opened is closed by a bracket of
its own kind, with nested text between the two. -/
inductive Nested : List Char → Prop
  | nil : Nested []
  | plain {c : Char} {rest : List Char} (hc : IsPlain c) (h : Nested rest) : Nested (c :: rest)
  | group (b : Bracket) {inner rest : List Char} (hi : Nested inner) (h : Nested rest) :
    Nested (b.opening :: (inner ++ b.closing :: rest))

namespace Bracket

/-- Only the bracket opened last can be closed. -/
def close (b : Bracket) : List Bracket → Option (List Bracket)
  | [] => none
  | last :: opened => if last = b then some opened else none

/-- The brackets that are open, the last one first, after one more sign. -/
def take (opened : List Bracket) : Char → Option (List Bracket)
  | '(' => some (.round :: opened)
  | '[' => some (.square :: opened)
  | '\x7b' => some (.curly :: opened)
  | ')' => close .round opened
  | ']' => close .square opened
  | '\x7d' => close .curly opened
  | _ => some opened

theorem close_eq_some {b : Bracket} {opened opened' : List Bracket} :
    close b opened = some opened' ↔ opened = b :: opened' := by
  cases opened with
  | nil => simp [close]
  | cons last opened =>
    simp only [close]
    split
    · rename_i he
      simp [he]
    · rename_i hne
      simp [hne]

/-- One sign opens a bracket, closes the last one, or is no bracket. -/
theorem take_cases {opened opened' : List Bracket} {c : Char} (h : take opened c = some opened') :
    (∃ b : Bracket, c = b.opening ∧ opened' = b :: opened) ∨
    (∃ b : Bracket, c = b.closing ∧ opened = b :: opened') ∨
    (IsPlain c ∧ opened' = opened) := by
  unfold take at h
  split at h
  · exact .inl ⟨.round, rfl, (Option.some.inj h).symm⟩
  · exact .inl ⟨.square, rfl, (Option.some.inj h).symm⟩
  · exact .inl ⟨.curly, rfl, (Option.some.inj h).symm⟩
  · exact .inr (.inl ⟨.round, rfl, close_eq_some.mp h⟩)
  · exact .inr (.inl ⟨.square, rfl, close_eq_some.mp h⟩)
  · exact .inr (.inl ⟨.curly, rfl, close_eq_some.mp h⟩)
  · refine .inr (.inr ⟨fun b => ?_, (Option.some.inj h).symm⟩)
    cases b <;> exact ⟨‹_›, ‹_›⟩

theorem take_plain {opened : List Bracket} {c : Char} (h : IsPlain c) :
    take opened c = some opened := by
  unfold take
  split
  · exact absurd rfl (h .round).1
  · exact absurd rfl (h .square).1
  · exact absurd rfl (h .curly).1
  · exact absurd rfl (h .round).2
  · exact absurd rfl (h .square).2
  · exact absurd rfl (h .curly).2
  · rfl

theorem take_frame {opened opened' : List Bracket} {c : Char} (h : take opened c = some opened')
    (outer : List Bracket) : take (opened ++ outer) c = some (opened' ++ outer) := by
  rcases take_cases h with ⟨b, rfl, rfl⟩ | ⟨b, rfl, rfl⟩ | ⟨hc, rfl⟩
  · cases b <;> rfl
  · cases b <;> rfl
  · exact take_plain hc

end Bracket

/-- The brackets that are open after some text, if each one it closes is the one opened last. -/
def openAfter (opened : List Bracket) (cs : List Char) : Option (List Bracket) :=
  cs.foldlM Bracket.take opened

section Opened

variable {opened opened' opened'' : List Bracket} {cs ds : List Char}

theorem openAfter_cons {c : Char} : openAfter opened (c :: cs) = some opened' ↔
    ∃ between, Bracket.take opened c = some between ∧ openAfter between cs = some opened' := by
  simp only [openAfter, List.foldlM_cons, Option.bind_eq_bind, Option.bind_eq_some_iff]

theorem openAfter_append (h : openAfter opened cs = some opened')
    (h' : openAfter opened' ds = some opened'') : openAfter opened (cs ++ ds) = some opened'' := by
  simp only [openAfter, List.foldlM_append, Option.bind_eq_bind]
  rw [← openAfter, h]
  exact h'

/-- What is open around a text does not matter to it. -/
theorem openAfter_frame (h : openAfter opened cs = some opened') (outer : List Bracket) :
    openAfter (opened ++ outer) cs = some (opened' ++ outer) := by
  induction cs generalizing opened with
  | nil =>
    cases h
    rfl
  | cons c cs ih =>
    obtain ⟨between, hc, hcs⟩ := openAfter_cons.mp h
    exact openAfter_cons.mpr ⟨between ++ outer, Bracket.take_frame hc outer, ih hcs⟩

/-- Text that closes the brackets given, in this order, with nested text around each. -/
inductive Unwinds : List Bracket → List Char → Prop
  | last {text : List Char} (h : Nested text) : Unwinds [] text
  | close {b : Bracket} {opened : List Bracket} {inner rest : List Char} (hi : Nested inner)
    (h : Unwinds opened rest) : Unwinds (b :: opened) (inner ++ b.closing :: rest)

theorem unwinds_of_openAfter (h : openAfter opened cs = some []) : Unwinds opened cs := by
  induction cs generalizing opened with
  | nil =>
    cases h
    exact .last .nil
  | cons c cs ih =>
    obtain ⟨between, hc, hcs⟩ := openAfter_cons.mp h
    have hrest := ih hcs
    rcases Bracket.take_cases hc with ⟨b, rfl, rfl⟩ | ⟨b, rfl, rfl⟩ | ⟨hplain, rfl⟩
    · -- What closes the new bracket makes a group with it, at the front of what comes after.
      cases hrest with
      | close hinner hrest =>
        cases hrest with
        | last hn => exact .last (.group b hinner hn)
        | @close b' opened inner rest hi hr =>
          have hgroup := Unwinds.close (b := b') (.group b hinner hi) hr
          simpa only [List.cons_append, List.append_assoc] using hgroup
    · exact .close .nil hrest
    · cases hrest with
      | last hn => exact .last (.plain hplain hn)
      | close hi hr => exact .close (.plain hplain hi) hr

/-- Text is nested when nothing is open after it. -/
theorem nested_of_openAfter (h : openAfter [] cs = some []) : Nested cs := by
  cases unwinds_of_openAfter h with
  | last hn => exact hn

theorem openAfter_plain (h : ∀ c ∈ cs, IsPlain c) : openAfter opened cs = some opened := by
  induction cs with
  | nil => rfl
  | cons c cs ih =>
    obtain ⟨hc, hcs⟩ := List.forall_mem_cons.mp h
    exact openAfter_cons.mpr ⟨opened, Bracket.take_plain hc, ih hcs⟩

end Opened

def isCodeSign (c : Char) : Bool := c ≠ '"' && c ≠ '/'

/-- Code without literals and comments, which leaves other brackets open than it finds. -/
structure Code (s : String) (before after : List Bracket) : Prop where
  opened : openAfter before s.toList = some after
  signs : ∀ c ∈ s.toList, isCodeSign c = true

abbrev Closed (s : String) : Prop := Code s [] []

section Codes

variable {a b c : String} {xs ys zs : List Bracket}

namespace Code

theorem append (h : Code a xs ys) (h' : Code b ys zs) : Code (a ++ b) xs zs := by
  refine ⟨?_, ?_⟩
  · rw [String.toList_append]
    exact openAfter_append h.opened h'.opened
  · simp only [String.toList_append, List.forall_mem_append]
    exact ⟨h.signs, h'.signs⟩

theorem frame (h : Code a xs ys) (outer : List Bracket) : Code a (xs ++ outer) (ys ++ outer) :=
  ⟨openAfter_frame h.opened outer, h.signs⟩

/-- Closed code may follow whatever is open. -/
theorem then_closed (h : Code a xs ys) (h' : Closed b) : Code (a ++ b) xs ys :=
  h.append (h'.frame ys)

/-- Closed code between two pieces. -/
theorem fill (h : Code a xs ys) (hc : Closed c) (h' : Code b ys zs) : Code (a ++ c ++ b) xs zs :=
  (h.then_closed hc).append h'

/-- Fits a literal, whose signs are then gone through one by one. -/
theorem ofList {cs : List Char}
    (h : (openAfter xs cs, cs.all isCodeSign) = (some ys, true)) :
    Code (String.ofList cs) xs ys := by
  obtain ⟨hopen, hsigns⟩ := Prod.mk.inj h
  refine ⟨?_, ?_⟩
  · rwa [String.toList_ofList]
  · rwa [String.toList_ofList, ← List.all_eq_true]

example : Code "Ok(Self \x7b" [] [.curly, .round] := .ofList rfl

end Code

theorem closed_append (h : Closed a) (h' : Closed b) : Closed (a ++ b) := h.append h'

theorem closed_of_signs (h : ∀ c ∈ a.toList, IsPlain c ∧ isCodeSign c = true) : Closed a :=
  ⟨openAfter_plain fun c hc => (h c hc).1, fun c hc => (h c hc).2⟩

theorem isPlain_of_isWordChar {c : Char} (h : Text.isWordChar c = true) :
    IsPlain c ∧ isCodeSign c = true := by
  refine ⟨fun b => ⟨?_, ?_⟩, ?_⟩
  · rintro rfl
    cases b <;> contradiction
  · rintro rfl
    cases b <;> contradiction
  · simp only [isCodeSign, Bool.and_eq_true, decide_eq_true_eq, ne_eq]
    constructor <;> rintro rfl <;> contradiction

theorem IsWord.closed (h : IsWord a) : Closed a :=
  closed_of_signs fun c hc => isPlain_of_isWordChar (h c hc)

theorem closed_toString (n : Nat) : Closed (toString n) := (isWord_repr n).closed

theorem closed_intercalate {separator : String} {items : List String} (hs : Closed separator)
    (h : ∀ item ∈ items, Closed item) : Closed (separator.intercalate items) := by
  induction items with
  | nil => exact .ofList rfl
  | cons item items ih =>
    obtain ⟨hitem, hrest⟩ := List.forall_mem_cons.mp h
    cases items with
    | nil => simpa using hitem
    | cons next items =>
      rw [String.intercalate_cons_cons]
      exact closed_append (closed_append hitem hs) (ih hrest)

end Codes

end AbiBindings
