import AbiBindings.Proofs.Installing
import AbiBindings.Proofs.Quoting

namespace AbiBindings

open Files (Conduct Tree)

section Writing

variable (input : ByteArray) (conduct : Conduct) (t : Tree)

/-- How a file was installed settles what writing tells. -/
theorem writeBindings_run (b : ContractBindings) (text root : String) {t' : Tree}
    {settled : Except Files.Fault Unit}
    (h : t.install (b.outputPath root) text.toUTF8 conduct = (settled, t')) :
    (writeBindings (Tree.host input conduct) b text root).run t = (match settled with
      | .ok () => .ok (b.outputPath root)
      | .error fault => .error (.emission (b.outputPath root) fault), t') := by
  rw [← Tree.install_eq input, StateT.run] at h
  simp only [writeBindings, StateT.run, bind, StateT.bind, h]
  cases settled <;> rfl

/-- Written bindings are installed where they belong, or an error names that place. What was written
once can be written again. -/
theorem writeBindings_cases (b : ContractBindings) (text root : String) :
    (∃ t', (writeBindings (Tree.host input conduct) b text root).run t =
        (.ok (b.outputPath root), t') ∧
      t.Installs t' (b.outputPath root) text.toUTF8 ∧
      ∀ again : Conduct, again.Willing t' (b.outputPath root) →
        ∃ t'', (writeBindings (Tree.host input again) b text root).run t' =
          (.ok (b.outputPath root), t'') ∧ t'.Same t'') ∨
    ∃ fault t', (writeBindings (Tree.host input conduct) b text root).run t =
      (.error (.emission (b.outputPath root) fault), t') ∧ Tree.Abandons conduct t t' := by
  rcases Tree.install_cases conduct t (b.outputPath root) text.toUTF8 with
    ⟨fault, t', hinstall, habandons⟩ | ⟨place, t', hinstall, hinstalls, hopens, hhere⟩
  · exact .inr ⟨fault, t', writeBindings_run input conduct t b text root hinstall, habandons⟩
  · refine .inl ⟨t', writeBindings_run input conduct t b text root hinstall, hinstalls, ?_⟩
    intro again hwilling
    obtain ⟨t'', hagain, hputs⟩ := hopens.install again hwilling text.toUTF8
    exact ⟨t'', writeBindings_run input again t' b text root hagain, hputs.same hhere⟩

variable {options : Options} {source : Source}

/-- Nothing is done when there are no bindings. -/
theorem generateBindings_failed {e : Failure} (h : (compile options source).result = .error e)
    (config : RenderConfig) (root : String) :
    (generateBindings (Tree.host input conduct) options config source root).run t =
      (⟨(compile options source).diagnostics, .error e⟩, t) := by
  simp only [generateBindings, h]
  rfl

/-- The file is all that generating leaves. -/
theorem generateBindings_compiled {b : ContractBindings}
    (h : (compile options source).result = .ok b) (config : RenderConfig) (root : String)
    {written : Except Failure String} {t' : Tree}
    (hw : (writeBindings (Tree.host input conduct) b (b.render config) root).run t =
      (written, t')) :
    (generateBindings (Tree.host input conduct) options config source root).run t =
      (⟨(compile options source).diagnostics, written⟩, t') := by
  simp only [StateT.run] at hw
  simp only [generateBindings, h, StateT.run, bind, StateT.bind, hw]
  rfl

/-- A run ends without bindings and touches nothing, or their file is not written, or it is. -/
theorem generateBindings_cases (options : Options) (config : RenderConfig) (source : Source)
    (root : String) :
    let diagnostics := (compile options source).diagnostics
    let generate (under : Conduct) :=
      (generateBindings (Tree.host input under) options config source root).run
    (∃ e, (compile options source).result = .error e ∧
      generate conduct t = (⟨diagnostics, .error e⟩, t)) ∨
    (∃ b fault t', (compile options source).result = .ok b ∧
      generate conduct t = (⟨diagnostics, .error (.emission (b.outputPath root) fault)⟩, t') ∧
      Tree.Abandons conduct t t') ∨
    ∃ b t', (compile options source).result = .ok b ∧
      generate conduct t = (⟨diagnostics, .ok (b.outputPath root)⟩, t') ∧
      t.Installs t' (b.outputPath root) (b.render config).toUTF8 ∧
      ∀ again : Conduct, again.Willing t' (b.outputPath root) →
        ∃ t'', generate again t' = (⟨diagnostics, .ok (b.outputPath root)⟩, t'') ∧ t'.Same t'' := by
  intro diagnostics generate
  cases hc : (compile options source).result with
  | error e => exact .inl ⟨e, rfl, generateBindings_failed input conduct t hc config root⟩
  | ok b =>
    rcases writeBindings_cases input conduct t b (b.render config) root with
      ⟨t', hrun, hinstalls, hagain⟩ | ⟨fault, t', hrun, habandons⟩
    · refine .inr (.inr ⟨b, t', rfl, generateBindings_compiled input conduct t hc config root hrun,
        hinstalls, ?_⟩)
      intro again hwilling
      obtain ⟨t'', hrun', hsame⟩ := hagain again hwilling
      exact ⟨t'', generateBindings_compiled input again t' hc config root hrun', hsame⟩
    · exact .inr (.inl ⟨b, fault, t', rfl,
        generateBindings_compiled input conduct t hc config root hrun, habandons⟩)

/-- Writing bindings replaces the one file at their path and tells the path, or it fails with an
error that tells the path, at whatever step, and leaves every file as it was; nothing but directories
is made beside, unless a draft cannot be removed. A source that does not compile leaves the tree as it
is. What was generated once is generated again with the same path, the same diagnostics and the same
tree, if the system lets it. -/
theorem writing_all_or_nothing :
    (∀ b text root, ∃ written t',
      (writeBindings (Tree.host input conduct) b text root).run t = (written, t') ∧
      (written = .ok (b.outputPath root) ∧ t.Installs t' (b.outputPath root) text.toUTF8 ∨
        ∃ fault, written = .error (.emission (b.outputPath root) fault) ∧
          Tree.Abandons conduct t t')) ∧
    ∀ options config source root,
      let generate (under : Conduct) :=
        (generateBindings (Tree.host input under) options config source root).run
      (∀ e, (compile options source).result = .error e →
        generate conduct t = (⟨(compile options source).diagnostics, .error e⟩, t)) ∧
      (∀ diagnostics e t', generate conduct t = (⟨diagnostics, .error e⟩, t') →
        t' = t ∨ ∃ b fault, (compile options source).result = .ok b ∧
          e = .emission (b.outputPath root) fault ∧ Tree.Abandons conduct t t') ∧
      ∀ diagnostics path t', generate conduct t = (⟨diagnostics, .ok path⟩, t') →
        (∃ b, (compile options source).result = .ok b ∧ path = b.outputPath root ∧
          t.Installs t' path (b.render config).toUTF8) ∧
        ∀ again : Conduct, again.Willing t' path →
          ∃ t'', generate again t' = (⟨diagnostics, .ok path⟩, t'') ∧ t'.Same t'' := by
  refine ⟨fun b text root => ?_, fun options config source root => ?_⟩
  · rcases writeBindings_cases input conduct t b text root with
      ⟨t', hrun, hinstalls, _⟩ | ⟨fault, t', hrun, habandons⟩
    · exact ⟨_, t', hrun, .inl ⟨rfl, hinstalls⟩⟩
    · exact ⟨_, t', hrun, .inr ⟨fault, rfl, habandons⟩⟩
  · intro generate
    have hcases := generateBindings_cases input conduct t options config source root
    refine ⟨fun e he => generateBindings_failed input conduct t he config root, ?_, ?_⟩
    · intro diagnostics e t' hg
      rcases hcases with ⟨e', _, hrun⟩ | ⟨b, fault, t₁, hc, hrun, habandons⟩ | ⟨b, t₁, _, hrun, _⟩
      · exact .inl (congrArg (·.2) (hg.symm.trans hrun))
      · obtain ⟨hsame, rfl⟩ := Prod.mk.inj (hg.symm.trans hrun)
        exact .inr ⟨b, fault, hc, Except.error.inj (congrArg (·.result) hsame), habandons⟩
      · cases congrArg (·.1.result) (hg.symm.trans hrun)
    · intro diagnostics path t' hg
      rcases hcases with ⟨e, _, hrun⟩ | ⟨b, fault, t₁, _, hrun, _⟩ | ⟨b, t₁, hc, hrun, hinst, hagain⟩
      · cases congrArg (·.1.result) (hg.symm.trans hrun)
      · cases congrArg (·.1.result) (hg.symm.trans hrun)
      · obtain ⟨hsame, rfl⟩ := Prod.mk.inj (hg.symm.trans hrun)
        obtain rfl := Except.ok.inj (congrArg (·.result) hsame)
        exact ⟨⟨b, hc, rfl, hinst⟩, hsame ▸ hagain⟩

end Writing

section Shelf

/-- A tree with an output directory in which something stands where the module belongs. -/
def shelf (bindings : Files.Node) : Tree where
  root := .directory [("out", .directory [("bindings", bindings)])]

def olderShelf : Tree := shelf (.directory [("greeter.rs", .file "// older\n".toUTF8)])

def blockedShelf : Tree := shelf (.file "// in the way\n".toUTF8)

def generateGreeter (conduct : Conduct) (package : String) : Tree → Outcome String × Tree :=
  (generateBindings (Tree.host .empty conduct) {} {} { greeter "TooLate" with package } "out").run

/-- The bytes arrive, but they cannot be moved to where they belong. -/
def unmoved : Conduct := { refusedMove := some (.other "Permission denied (os error 13)") }

theorem generateGreeter_ok : ∃ diagnostics t', generateGreeter {} "bindings" olderShelf =
    (⟨diagnostics, .ok "out/bindings/greeter.rs"⟩, t') := by
  obtain ⟨path, hpath, rfl⟩ : ∃ path, (generateGreeter {} "bindings" olderShelf).1.result = .ok path ∧
      path = "out/bindings/greeter.rs" := ok_of_view (by decide +kernel)
  exact ⟨_, _, Prod.ext (by rw [← hpath]) rfl⟩

theorem generateGreeter_error (conduct : Conduct) (t : Tree)
    (h : (generateGreeter conduct "bindings" t).1.result.toOption = none) :
    ∃ diagnostics e t', generateGreeter conduct "bindings" t = (⟨diagnostics, .error e⟩, t') := by
  cases hr : (generateGreeter conduct "bindings" t).1.result with
  | error e => exact ⟨_, e, _, Prod.ext (by rw [← hr]) rfl⟩
  | ok path =>
    rw [hr] at h
    cases h

theorem willing_again {t' : Tree} (h : (generateGreeter {} "bindings" olderShelf).2 = t') :
    ({} : Conduct).Willing t' "out/bindings/greeter.rs" := by
  refine ⟨rfl, rfl, rfl, rfl, 0, by decide, ?_⟩
  obtain ⟨drawn, hdrawn, hnew⟩ : ∃ drawn, (generateGreeter {} "bindings" olderShelf).2.draftAt
      (Path.parent "out/bindings/greeter.rs") (.ofNumber 0) = .ok drawn ∧
      (generateGreeter {} "bindings" olderShelf).2.entryAt drawn.place = none :=
    ok_of_view (by decide +kernel)
  intro draft hdraft
  rw [← h] at hdraft ⊢
  rw [← Except.ok.inj (hdrawn.symm.trans hdraft)]
  exact hnew

/-- A file of an older run is replaced, and once more by its like. A draft that cannot be moved goes
without a trace, a file in place of the directory stays, and a source that does not compile leaves it
alone. -/
theorem writing_all_or_nothing_greeter :
    (∃ diagnostics t' t'', generateGreeter {} "bindings" olderShelf =
        (⟨diagnostics, .ok "out/bindings/greeter.rs"⟩, t') ∧
      generateGreeter {} "bindings" t' = (⟨diagnostics, .ok "out/bindings/greeter.rs"⟩, t'') ∧
      t'.Same t'') ∧
    (∃ diagnostics e t', generateGreeter unmoved "bindings" olderShelf =
        (⟨diagnostics, .error e⟩, t') ∧
      (t' = olderShelf ∨ olderShelf.OnlyMakes t')) ∧
    (∃ diagnostics e t', generateGreeter {} "bindings" blockedShelf =
        (⟨diagnostics, .error e⟩, t') ∧
      (t' = blockedShelf ∨ blockedShelf.OnlyMakes t')) ∧
    ∃ diagnostics e, generateGreeter {} "for" blockedShelf =
      (⟨diagnostics, .error e⟩, blockedShelf) := by
  refine ⟨?replaced, ?unmoved, ?blocked, ?uncompiled⟩
  case replaced =>
    obtain ⟨diagnostics, t', hg⟩ := generateGreeter_ok
    obtain ⟨_, _, hok⟩ := (writing_all_or_nothing .empty {} olderShelf).2 {} {} _ "out"
    obtain ⟨_, hagain⟩ := hok _ _ _ hg
    obtain ⟨t'', hg', hsame⟩ := hagain {} (willing_again (congrArg (·.2) hg))
    exact ⟨diagnostics, t', t'', hg, hg', hsame⟩
  case unmoved =>
    obtain ⟨diagnostics, e, t', hg⟩ :=
      generateGreeter_error unmoved olderShelf (by decide +kernel)
    obtain ⟨_, hfailed, _⟩ := (writing_all_or_nothing .empty unmoved olderShelf).2 {} {} _ "out"
    rcases hfailed _ _ _ hg with hsame | ⟨_, _, _, _, habandons⟩
    · exact ⟨diagnostics, e, t', hg, .inl hsame⟩
    · exact ⟨diagnostics, e, t', hg, .inr (habandons.onlyMakes rfl)⟩
  case blocked =>
    obtain ⟨diagnostics, e, t', hg⟩ :=
      generateGreeter_error {} blockedShelf (by decide +kernel)
    obtain ⟨_, hfailed, _⟩ := (writing_all_or_nothing .empty {} blockedShelf).2 {} {} _ "out"
    rcases hfailed _ _ _ hg with hsame | ⟨_, _, _, _, habandons⟩
    · exact ⟨diagnostics, e, t', hg, .inl hsame⟩
    · exact ⟨diagnostics, e, t', hg, .inr (habandons.onlyMakes rfl)⟩
  case uncompiled =>
    obtain ⟨e, he⟩ : ∃ e, (compile {} { greeter "TooLate" with package := "for" }).result =
      .error e := ⟨_, rfl⟩
    obtain ⟨huncompiled, _⟩ := (writing_all_or_nothing .empty {} blockedShelf).2 {} {} _ "out"
    exact ⟨_, e, huncompiled e he⟩

end Shelf

end AbiBindings
