import AbiBindings.Proofs.CodeText
import AbiBindings.Proofs.Indentation

namespace AbiBindings

/-- Steps that leave no bracket open: closed lines, and bodies one level deeper between a line that
opens brackets and one that closes them. -/
inductive Nests : List Step → Prop
  | nil : Nests []
  | blank {steps : List Step} (h : Nests steps) : Nests (.blank :: steps)
  | line {text : String} {steps : List Step} (ht : LineCode text [] []) (h : Nests steps) :
    Nests (.line text :: steps)
  | deeper {opening closing : String} {opened : List Bracket} {body steps : List Step}
    (ho : Code opening [] opened) (hb : Nests body) (hc : Code closing opened [])
    (h : Nests steps) :
    Nests (.line opening :: .indent :: (body ++ .dedent :: .line closing :: steps))

namespace Nests

variable {xs ys body steps : List Step} {text : String}

theorem append (hx : Nests xs) (hy : Nests ys) : Nests (xs ++ ys) := by
  induction hx with
  | nil => exact hy
  | blank _ ih => exact .blank ih
  | line ht _ ih => exact .line ht ih
  | deeper ho hb hc _ _ ih =>
    simp only [List.cons_append, List.append_assoc]
    exact .deeper ho hb hc ih

/-- Two parts with an empty line between them. -/
theorem apart (hx : Nests xs) (hy : Nests ys) : Nests (xs ++ .blank :: ys) := hx.append (.blank hy)

theorem doc (text : String) (h : Nests xs) : Nests (docLine text :: xs) :=
  .line (.comment (.append ⟨_, rfl⟩ text) []) h

/-- A block, whose header leaves brackets open that the closing line closes after the brace. -/
theorem block {header close : String} {opened : List Bracket} (hh : Code header [] opened)
    (hb : Nests body) (hc : Code close (.curly :: opened) []) :
    Nests (block header body close) := by
  have hbrace : Code " \x7b" [] [.curly] := .ofList rfl
  exact .deeper (hh.append (hbrace.frame opened)) hb hc .nil

theorem lines {α : Type} {items : List α} {line : α → String}
    (h : ∀ item ∈ items, Closed (line item)) : Nests (items.map fun item => .line (line item)) := by
  induction items with
  | nil => exact .nil
  | cons item items ih =>
    obtain ⟨hitem, hrest⟩ := List.forall_mem_cons.mp h
    exact .line (.code hitem) (ih hrest)

theorem flatMap {α : Type} {items : List α} {part : α → List Step}
    (h : ∀ item ∈ items, Nests (part item)) : Nests (items.flatMap part) := by
  induction items with
  | nil => exact .nil
  | cons item items ih =>
    obtain ⟨hitem, hrest⟩ := List.forall_mem_cons.mp h
    exact hitem.append (ih hrest)

end Nests

section Writing

variable {before after body steps : List Step} {opening closing : String}

theorem Nests.level (h : Nests steps) : Level steps := by
  induction h with
  | nil => exact .nil
  | blank _ ih => exact .blank ih
  | line _ _ ih => exact .line _ ih
  | deeper _ _ _ _ ihb ih => exact .line _ (.deeper ihb (.line _ ih))

/-- Nested steps write text that closes all it opens. The induction is on how the steps nest: what
a body finds open does not matter to it. -/
theorem Nests.written (h : Nests steps) (hs : ∀ s ∈ steps, s.Unbroken) {pen : Pen}
    (hp : pen.Blank) : Written (pen.write steps).1.toList [] [] := by
  induction h generalizing pen with
  | nil => exact .nil []
  | blank _ ih =>
    have hempty : Written ([] ++ ['\n']) [] [] := .line List.not_mem_nil rfl rfl rfl
    simp only [Pen.write, Pen.take, String.toList_append]
    exact hempty.append (ih (List.forall_mem_cons.mp hs).2 hp)
  | line ht _ ih =>
    obtain ⟨htext, hrest⟩ := List.forall_mem_cons.mp hs
    simp only [Pen.write, Pen.take, String.toList_append]
    exact (Pen.written_line ht htext hp).append (ih hrest hp)
  | @deeper opening closing opened body _ ho hb hc _ ihb ih =>
    simp only [List.forall_mem_cons, List.forall_mem_append] at hs
    obtain ⟨hopening, _, hbody, _, hclosing, hrest⟩ := hs
    have hdeeper : pen.indent.Blank := hp
    have hinner := (ihb hbody hdeeper).frame opened
    have hfirst := Pen.written_line (.code ho) hopening hp
    have hlast := Pen.written_line (.code hc) hclosing hp
    have hback : pen.indent.dedent = pen := rfl
    simp only [Pen.write, Pen.take, Pen.write_append, hb.level.pen_eq, hback, String.toList_append,
      String.toList_empty, List.nil_append]
    exact hfirst.append (hinner.append (hlast.append (ih hrest hp)))

/-- Between the steps before and those after an item comes to its end: the pen is back where it
started, what comes next does not stand deeper, and it is not the line that closes a body. -/
structure EndsItem (pen : Pen) (before after : List Step) : Prop where
  back : (pen.write before).2 = pen
  above : after.head? ≠ some .indent
  below : before.getLast? ≠ some .dedent

/-- Behind a line at the margin an item ends unless what comes next stands deeper. -/
theorem EndsItem.of_level {pen : Pen} {text : String} (h : Level before)
    (hl : before.getLast? = some (.line text)) (ha : after.head? ≠ some .indent) :
    EndsItem pen before after :=
  ⟨h.pen_eq pen, ha, by simp [hl]⟩

theorem EndsItem.behind {pen : Pen} {front : List Step} (hf : Level front)
    (h : EndsItem pen (front ++ before) after) : EndsItem pen before after := by
  refine ⟨?_, h.above, fun hlast => h.below ?_⟩
  · have hback := h.back
    rwa [Pen.write_append, hf.pen_eq] at hback
  · rw [List.getLast?_append, hlast, Option.some_or]

/-- Where steps may be cut that go on with a body: around the opening line, in the body, before the
closing line, or behind it. -/
theorem cut_deeper (h : before ++ after =
      .line opening :: .indent :: (body ++ .dedent :: .line closing :: steps)) :
    before = [] ∨ (before = [.line opening] ∧ after.head? = some .indent) ∨
    (∃ part rest, part ++ rest = body ∧ before = .line opening :: .indent :: part) ∨
    before = .line opening :: .indent :: body ++ [.dedent] ∨
    ∃ part, part ++ after = steps ∧
      before = .line opening :: .indent :: (body ++ [.dedent, .line closing]) ++ part := by
  rcases before with _ | ⟨first, before⟩
  · exact .inl rfl
  obtain ⟨rfl, hbehind⟩ := List.cons.inj h
  rcases before with _ | ⟨second, before⟩
  · exact .inr (.inl ⟨rfl, congrArg List.head? hbehind⟩)
  obtain ⟨rfl, hinside⟩ := List.cons.inj hbehind
  refine .inr (.inr ?_)
  rcases List.append_eq_append_iff.mp hinside with ⟨rest, rfl, _⟩ | ⟨part, rfl, hend⟩
  · exact .inl ⟨before, rest, rfl, rfl⟩
  rcases part with _ | ⟨third, part⟩
  · exact .inl ⟨body, [], List.append_nil body, by rw [List.append_nil]⟩
  obtain ⟨rfl, hclose⟩ := List.cons.inj hend
  rcases part with _ | ⟨fourth, part⟩
  · exact .inr (.inl rfl)
  obtain ⟨rfl, hrest⟩ := List.cons.inj hclose
  exact .inr (.inr ⟨part, hrest.symm, by simp⟩)

/-- What comes before the end of an item is nested by itself. -/
theorem Nests.cut (h : Nests steps) (hc : before ++ after = steps) {pen : Pen}
    (he : EndsItem pen before after) : Nests before := by
  induction h generalizing before with
  | nil =>
    obtain ⟨rfl, _⟩ := List.append_eq_nil_iff.mp hc
    exact .nil
  | blank _ ih =>
    cases before with
    | nil => exact .nil
    | cons step before =>
      obtain ⟨rfl, hrest⟩ := List.cons.inj hc
      exact .blank (ih hrest (he.behind (.blank .nil)))
  | line ht _ ih =>
    cases before with
    | nil => exact .nil
    | cons step before =>
      obtain ⟨rfl, hrest⟩ := List.cons.inj hc
      exact .line ht (ih hrest (he.behind (.line _ .nil)))
  | deeper ho hb hc' _ _ ih =>
    rcases cut_deeper hc with rfl | ⟨rfl, hnext⟩ | ⟨part, rest, hpart, rfl⟩ | rfl |
      ⟨part, hpart, rfl⟩
    · exact .nil
    · exact absurd hnext he.above
    · -- In the body the pen stands one level deeper at least.
      have hdeep := hb.level.level_le hpart pen.indent
      have hlevel : (pen.indent.write part).2.level = pen.level := congrArg Pen.level he.back
      rw [hlevel] at hdeep
      exact absurd hdeep (Nat.not_succ_le_self _)
    · exact absurd List.getLast?_concat he.below
    · have hfront := Nests.deeper ho hb hc' .nil
      exact hfront.append (ih hpart (he.behind hfront.level))

end Writing

end AbiBindings
