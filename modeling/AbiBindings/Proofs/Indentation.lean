import AbiBindings.Proofs.PageRows

namespace AbiBindings

namespace Level

variable {before after body steps : List Step}

/-- Where steps may be cut that begin with a deeper body: before it, in it, or behind it. -/
theorem cut_cases (h : before ++ after = .indent :: (body ++ .dedent :: steps)) :
    before = [] ∨
    (∃ part rest, part ++ rest = body ∧ before = .indent :: part ∧
      after = rest ++ .dedent :: steps) ∨
    ∃ part, part ++ after = steps ∧ before = .indent :: (body ++ [.dedent]) ++ part := by
  rcases before with _ | ⟨first, before⟩
  · exact .inl rfl
  obtain ⟨rfl, hinside⟩ := List.cons.inj h
  rcases List.append_eq_append_iff.mp hinside with ⟨rest, hbody, hafter⟩ | ⟨part, hbefore, hend⟩
  · exact .inr (.inl ⟨before, rest, hbody.symm, rfl, hafter⟩)
  rcases part with _ | ⟨second, part⟩
  · refine .inr (.inl ⟨body, [], List.append_nil body, ?_, hend.symm⟩)
    rw [hbefore, List.append_nil]
  · obtain ⟨rfl, hrest⟩ := List.cons.inj hend
    exact .inr (.inr ⟨part, hrest.symm, by simp [hbefore]⟩)

theorem write_body (hb : Level body) (pen : Pen) :
    (pen.write (.indent :: (body ++ [.dedent]))).2 = pen := by
  have hback : pen.indent.dedent = pen := rfl
  simp [Pen.write, Pen.take, Pen.write_append, hb.pen_eq, hback]

/-- Behind a body the pen is where it was before. -/
theorem write_behind (hb : Level body) (part : List Step) (pen : Pen) :
    (pen.write (.indent :: (body ++ [.dedent]) ++ part)).2 = (pen.write part).2 := by
  rw [Pen.write_append, hb.write_body]

/-- Wherever steps are cut, nothing before stands further out than they start. -/
theorem level_le (h : Level steps) (hc : before ++ after = steps) (pen : Pen) :
    pen.level ≤ (pen.write before).2.level := by
  induction h generalizing before after pen with
  | nil =>
    obtain ⟨rfl, _⟩ := List.append_eq_nil_iff.mp hc
    exact Nat.le_refl _
  | blank _ ih | line _ _ ih | nestedLine _ _ ih =>
    cases before with
    | nil => exact Nat.le_refl _
    | cons step before =>
      obtain ⟨rfl, hrest⟩ := List.cons.inj hc
      exact ih hrest pen
  | deeper hb _ ihb ih =>
    rcases cut_cases hc with rfl | ⟨part, rest, hpart, rfl, _⟩ | ⟨part, hpart, rfl⟩
    · exact Nat.le_refl _
    · exact Nat.le_of_succ_le (ihb hpart pen.indent)
    · rw [hb.write_behind]
      exact ih hpart pen

/-- A dedent always finds an indentation to take back, so the margin never cuts one short. -/
theorem lt_of_dedent (h : Level steps) (hc : before ++ .dedent :: after = steps) (pen : Pen) :
    pen.level < (pen.write before).2.level := by
  induction h generalizing before after pen with
  | nil => simp at hc
  | blank _ ih | line _ _ ih | nestedLine _ _ ih =>
    cases before with
    | nil => cases hc
    | cons step before =>
      obtain ⟨rfl, hrest⟩ := List.cons.inj hc
      exact ih hrest pen
  | deeper hb _ ihb ih =>
    rcases cut_cases hc with rfl | ⟨part, rest, hpart, rfl, hafter⟩ | ⟨part, hpart, rfl⟩
    · cases hc
    · cases rest with
      | nil =>
        rw [List.append_nil] at hpart
        subst hpart
        simp [Pen.write, Pen.take, hb.pen_eq, Pen.indent]
      | cons step rest =>
        obtain ⟨rfl, _⟩ := List.cons.inj hafter
        exact Nat.lt_of_succ_lt (ihb hpart pen.indent)
    · rw [hb.write_behind]
      exact ih hpart pen

/-- Behind every indent stand a body of its own and the dedent that takes it back. -/
theorem exists_body (h : Level steps) (hc : before ++ .indent :: after = steps) :
    ∃ body rest, after = body ++ .dedent :: rest ∧ Level body := by
  induction h generalizing before after with
  | nil => simp at hc
  | blank _ ih | line _ _ ih | nestedLine _ _ ih =>
    cases before with
    | nil => cases hc
    | cons step before =>
      obtain ⟨rfl, hrest⟩ := List.cons.inj hc
      exact ih hrest
  | @deeper body steps hb _ ihb ih =>
    rcases cut_cases hc with rfl | ⟨part, rest, hpart, rfl, hafter⟩ | ⟨part, hpart, rfl⟩
    · exact ⟨body, steps, (List.cons.inj hc).2, hb⟩
    · cases rest with
      | nil => cases hafter
      | cons step rest =>
        obtain ⟨rfl, rfl⟩ := List.cons.inj hafter
        obtain ⟨inner, behind, rfl, hinner⟩ := ihb hpart
        exact ⟨inner, behind ++ .dedent :: steps, by simp, hinner⟩
    · exact ih hpart

end Level

/-- From every level and with every unit, a page is the same lines under the same relative depths, and
the pen ends as it began. Every indent within it is taken back behind a body that leaves the pen as
it was, and no dedent is cut short by the margin. -/
theorem page_indentation (b : ContractBindings) (runtime : String) :
    (∃ rows : List (Nat × String), ∀ level unit,
      Pen.write ⟨level, unit⟩ (Render.page b runtime) =
        (String.join (rows.map fun (depth, text) =>
          if text = "" then "\n"
          else String.join (List.replicate (level + depth) unit) ++ text ++ "\n"),
        ⟨level, unit⟩)) ∧
    (∀ before after, Render.page b runtime = before ++ .indent :: after →
      ∃ body rest, after = body ++ .dedent :: rest ∧ Level body ∧
        ∀ pen : Pen, (pen.write (before ++ .indent :: (body ++ [.dedent]))).2 =
          (pen.write before).2) ∧
    ∀ before after, Render.page b runtime = before ++ .dedent :: after →
      ∀ pen : Pen, pen.level < (pen.write before).2.level := by
  have hlevel := Render.page_level b runtime
  refine ⟨?_, ?_, ?_⟩
  · obtain ⟨rows, hrows⟩ := hlevel.write
    exact ⟨rows, fun level unit => hrows ⟨level, unit⟩⟩
  · intro before after hpage
    obtain ⟨body, rest, hafter, hbody⟩ := hlevel.exists_body hpage.symm
    refine ⟨body, rest, hafter, hbody, fun pen => ?_⟩
    rw [Pen.write_append, hbody.write_body]
  · intro before after hpage pen
    exact hlevel.lt_of_dedent hpage.symm pen

section Stray

/-- A unit that does not fit together: no struct has the id used, and the type on the wire is not
that of the value. -/
def strayBindings : ContractBindings where
  contractName := "Stray"
  typeName := "Stray"
  fileStem := "stray"
  modulePath := ⟨[]⟩
  representation := .native
  structs := []
  functions := []
  events := []
  errors := [{
    abiName := "Lost"
    signature := "Lost(uint8[])"
    selector := .replicate 4 0
    recordName := "LostError"
    fields := [⟨"item", .array (.elementary (.uint 8)) none, .struct 7, false⟩] }]
  deploy := none
  hasFallback := false
  hasReceive := false
  publicEncoders := false

/-- The record's fields stand behind the first indent, and the first dedent stands behind them. -/
theorem page_indentation_stray :
    (∃ rows : List (Nat × String), ∀ level unit,
      Pen.write ⟨level, unit⟩ (Render.page strayBindings "rt") =
        (String.join (rows.map fun (depth, text) =>
          if text = "" then "\n"
          else String.join (List.replicate (level + depth) unit) ++ text ++ "\n"),
        ⟨level, unit⟩)) ∧
    (∃ before after, Render.page strayBindings "rt" = before ++ .indent :: after ∧
      before.length = 14 ∧ ∃ body rest, after = body ++ .dedent :: rest ∧ Level body) ∧
    ∃ before after, Render.page strayBindings "rt" = before ++ .dedent :: after ∧
      before.length = 16 ∧ ∀ pen : Pen, pen.level < (pen.write before).2.level := by
  obtain ⟨hrows, hindent, hdedent⟩ := page_indentation strayBindings "rt"
  have hopen : Render.page strayBindings "rt" = (Render.page strayBindings "rt").take 14 ++
      .indent :: (Render.page strayBindings "rt").drop 15 := by rfl
  have hclose : Render.page strayBindings "rt" = (Render.page strayBindings "rt").take 16 ++
      .dedent :: (Render.page strayBindings "rt").drop 17 := by rfl
  obtain ⟨body, rest, hafter, hbody, _⟩ := hindent _ _ hopen
  exact ⟨hrows, ⟨_, _, hopen, rfl, body, rest, hafter, hbody⟩, _, _, hclose, rfl, hdedent _ _ hclose⟩

end Stray

end AbiBindings
