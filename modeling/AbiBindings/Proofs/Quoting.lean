import AbiBindings.Proofs.AlikePages
import AbiBindings.Proofs.RawNames

namespace AbiBindings

namespace Step

/-- Of two alike steps, only a comment breaks a line that the other does not break. -/
theorem Alike.unbroken_or_comment {s t : Step} (h : s.Alike t) (ht : t.Unbroken) :
    s.Unbroken ∨ s.IsComment := by
  cases h with
  | same => exact .inl ht
  | comment hs _ => exact .inr hs
  | literal before after text text' =>
    obtain ⟨hba, ha⟩ := unbroken_append.mp ht
    exact .inl (unbroken_around (unbroken_append.mp hba).1 (Text.unbroken_quoted text) ha)
  | bytes before after hl =>
    obtain ⟨hba, ha⟩ := unbroken_append.mp ht
    exact .inl (unbroken_around (unbroken_append.mp hba).1
      (Render.unbroken_commaList (Render.unbroken_byteLiterals _)) ha)

end Step

theorem AlikePages.unbroken_or_comment {p p' : List Step} (h : AlikePages p p')
    (hp : ∀ s ∈ p', s.Unbroken) : ∀ s ∈ p, s.Unbroken ∨ s.IsComment := by
  induction h with
  | nil => simp
  | cons hs _ ih =>
    obtain ⟨ht, hrest⟩ := List.forall_mem_cons.mp hp
    exact List.forall_mem_cons.mpr ⟨hs.unbroken_or_comment ht, ih hrest⟩

namespace ContractBindings

variable {b : ContractBindings}

theorem nameless_nameless (b : ContractBindings) : b.nameless.nameless = b.nameless := by
  simp [nameless, StructDefinition.nameless, StructField.nameless, FunctionBinding.nameless,
    EventBinding.nameless, ErrorBinding.nameless, DeployHelper.nameless, Function.comp_def]

theorem Worded.nameless (h : b.Worded) : b.nameless.Worded where
  typeName := h.typeName
  structs := List.forall_mem_map.mpr fun d hd =>
    ⟨(h.structs d hd).name, List.forall_mem_map.mpr (h.structs d hd).fields⟩
  functions := List.forall_mem_map.mpr fun f hf => { h.functions f hf with }
  events := List.forall_mem_map.mpr fun e he => { h.events e he with }
  errors := List.forall_mem_map.mpr fun e he => { h.errors e he with }
  deploy := by
    rintro helper hh
    obtain ⟨helper', hd, rfl⟩ := Option.map_eq_some_iff.mp hh
    exact { h.deploy helper' hd with }

theorem oneLineTexts_nameless (b : ContractBindings) : b.nameless.OneLineTexts where
  contract := unbroken_ofList (by decide)
  functions := List.forall_mem_map.mpr fun _ _ => unbroken_ofList (by decide)
  events := List.forall_mem_map.mpr fun _ _ =>
    ⟨unbroken_ofList (by decide), unbroken_ofList (by decide)⟩
  errors := List.forall_mem_map.mpr fun _ _ => unbroken_ofList (by decide)
  deploy := by
    rintro helper hh signature hs
    obtain ⟨_, _, rfl⟩ := Option.map_eq_some_iff.mp hh
    cases hs

end ContractBindings

section Compiling

variable {options : Options} {source : Source} {b : ContractBindings}

/-- What rendering relies on: identifiers are words, and the module path stays on its line. -/
structure ContractBindings.Renderable (b : ContractBindings) : Prop where
  worded : b.Worded
  modulePath : Unbroken b.modulePath.text
  texts : b.OneLineTexts ↔ ∀ name ∈ b.rawNames, Unbroken name

/-- Bindings that come from an interface can be rendered line by line. -/
theorem compile_renderable (h : (compile options source).result = .ok b) : b.Renderable := by
  simp only [compile] at h
  split at h
  · cases h
  · rename_i modulePath hm
    split at h
    · cases h
    · obtain ⟨rs, g, hc⟩ := compileDeclarations_ok h
      simp only [compileDeclarations] at h
      split at h
      · cases h
      · split at h
        · cases h
        · refine ⟨buildBindings_worded h, ?_, hc.oneLineTexts_iff⟩
          rw [(buildBindings_stages h).2]
          exact ModulePath.unbroken_text_of_parse hm

end Compiling

/-- A page breaks no line just when no raw name does. -/
theorem ContractBindings.Renderable.page_unbroken_iff {b : ContractBindings} {runtime : String}
    (hb : b.Renderable) (hr : Unbroken runtime) :
    (∀ step ∈ Render.page b runtime, step.Unbroken) ↔ ∀ name ∈ b.rawNames, Unbroken name :=
  ⟨fun hp => hb.texts.mp (Render.oneLineTexts_of_page hp),
    fun hn => Render.unbroken_page hb.worded (hb.texts.mpr hn) hb.modulePath hr⟩

/-- Each step of an unbroken page is one line of the rendered text. -/
theorem ContractBindings.lineFeeds_render {b : ContractBindings} {runtime : String}
    (style : IndentStyle) (h : ∀ step ∈ Render.page b runtime, step.Unbroken) :
    lineFeeds (b.render ⟨style, runtime⟩) = (Render.page b runtime).countP (·.isLine) :=
  Pen.lineFeeds_write style.unbroken_unit h

/-- Raw names are quoted in comments and in literals only. A line breaks just when a raw name does,
and then it is a comment that breaks. Renaming that leaves the identifiers alone changes comments
and literals only and, as long as no raw name breaks, not the number of lines. -/
theorem raw_names_quoted {options : Options} {source : Source} {b : ContractBindings}
    {runtime : String} (h : (compile options source).result = .ok b) (hr : Unbroken runtime) :
    ((∀ step ∈ Render.page b runtime, step.Unbroken) ↔ ∀ name ∈ b.rawNames, Unbroken name) ∧
    (∀ step ∈ Render.page b runtime, step.Unbroken ∨ step.IsComment) ∧
    ∀ options' source' b', (compile options' source').result = .ok b' →
      b'.nameless = b.nameless →
      AlikePages (Render.page b runtime) (Render.page b' runtime) ∧
      ((∀ name ∈ b.rawNames, Unbroken name) → (∀ name ∈ b'.rawNames, Unbroken name) →
        ∀ style,
          lineFeeds (b.render ⟨style, runtime⟩) = lineFeeds (b'.render ⟨style, runtime⟩)) := by
  have hb := compile_renderable h
  have hiff := hb.page_unbroken_iff hr
  refine ⟨hiff, ?_, ?_⟩
  · -- The page without raw names breaks no line.
    have hnameless := Render.unbroken_page hb.worded.nameless b.oneLineTexts_nameless
      hb.modulePath hr
    exact (Render.page_alike runtime b.nameless_nameless.symm).unbroken_or_comment hnameless
  · intro options' source' b' h' hsame
    have halike := Render.page_alike runtime hsame.symm
    have hiff' := (compile_renderable h').page_unbroken_iff hr
    refine ⟨halike, fun hn hn' style => ?_⟩
    calc
      lineFeeds (b.render ⟨style, runtime⟩) = (Render.page b runtime).countP (·.isLine) :=
        ContractBindings.lineFeeds_render style (hiff.mpr hn)
      _ = (Render.page b' runtime).countP (·.isLine) := halike.countP_isLine
      _ = lineFeeds (b'.render ⟨style, runtime⟩) :=
        (ContractBindings.lineFeeds_render style (hiff'.mpr hn')).symm

section Greeter

/-- A contract with one error, whose name is given as it stands in the interface. -/
def greeter (errorName : String) : Source where
  name := "Greeter"
  interface := "[\x7b\"type\":\"error\",\"name\":\"" ++ errorName ++ "\",\"inputs\":[]\x7d]"
  package := "bindings"

theorem both_ok {ε α : Type} {x y : Except ε α} {P : α → α → Prop} [∀ a b, Decidable (P a b)]
    (h : (match x, y with | .ok a, .ok b => decide (P a b) | _, _ => false) = true) :
    ∃ a b, x = .ok a ∧ y = .ok b ∧ P a b := by
  split at h
  · rename_i a b
    exact ⟨a, b, rfl, rfl, of_decide_eq_true h⟩
  · cases h

/-- Two ways to spell the name of an error that give it the same identifier. -/
theorem greeter_respelled : ∃ b b', (compile {} (greeter "Too Late")).result = .ok b ∧
    (compile {} (greeter "Too-Late")).result = .ok b' ∧ b'.nameless = b.nameless ∧
      (∀ name ∈ b.rawNames, Unbroken name) ∧ ∀ name ∈ b'.rawNames, Unbroken name :=
  both_ok (by decide +kernel)

/-- An error under either spelling: no line breaks, and there are as many lines. -/
theorem raw_names_quoted_greeter : ∃ b b', (compile {} (greeter "Too Late")).result = .ok b ∧
    (compile {} (greeter "Too-Late")).result = .ok b' ∧ Unbroken defaultRuntime ∧
      (∀ step ∈ Render.page b defaultRuntime, step.Unbroken) ∧
      AlikePages (Render.page b defaultRuntime) (Render.page b' defaultRuntime) ∧
      lineFeeds (b.render {}) = lineFeeds (b'.render {}) := by
  obtain ⟨b, b', hb, hb', hsame, hn, hn'⟩ := greeter_respelled
  have hr : Unbroken defaultRuntime := unbroken_ofList (by decide)
  obtain ⟨hiff, _, hrenamed⟩ := raw_names_quoted hb hr
  obtain ⟨halike, hlines⟩ := hrenamed {} (greeter "Too-Late") b' hb' hsame
  exact ⟨b, b', hb, hb', hr, hiff.mpr hn, halike, hlines hn hn' (.spaces 4)⟩

/-- A spelling with a line feed, under the same identifier again. -/
theorem greeter_broken : ∃ b b', (compile {} (greeter "Too\\nLate")).result = .ok b ∧
    (compile {} (greeter "Too Late")).result = .ok b' ∧ b'.nameless = b.nameless ∧
      ∃ name ∈ b.rawNames, ¬Unbroken name :=
  both_ok (by decide +kernel)

/-- A line feed in the name of an error breaks a comment, so that the rest of the name stands on a
line of code, though another spelling has the same identifiers. -/
theorem comment_broken_greeter : ∃ b b', (compile {} (greeter "Too\\nLate")).result = .ok b ∧
    (compile {} (greeter "Too Late")).result = .ok b' ∧ b'.nameless = b.nameless ∧
      ∃ step ∈ Render.page b defaultRuntime, ¬step.Unbroken := by
  obtain ⟨b, b', hb, hb', hsame, name, hm, hbroken⟩ := greeter_broken
  have hr : Unbroken defaultRuntime := unbroken_ofList (by decide)
  refine ⟨b, b', hb, hb', hsame, Classical.byContradiction fun hnone => ?_⟩
  have hall : ∀ step ∈ Render.page b defaultRuntime, step.Unbroken := fun step hs =>
    Classical.byContradiction fun hstep => hnone ⟨step, hs, hstep⟩
  exact hbroken (((compile_renderable hb).page_unbroken_iff hr).mp hall name hm)

end Greeter

end AbiBindings
