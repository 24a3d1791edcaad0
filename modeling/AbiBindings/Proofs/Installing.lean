import AbiBindings.Files.Host
import AbiBindings.Proofs.Drafts

namespace AbiBindings

namespace Files

/-- Nothing but the tree decides whether a file is installed: the system refuses nothing, and one of
the names it draws is new. -/
structure Conduct.Willing (conduct : Conduct) (t : Tree) (path : String) : Prop where
  create : conduct.refusedDraft = none
  write : conduct.refusedContent = none
  flush : conduct.refusedFlush = none
  move : conduct.refusedMove = none
  fresh : ∃ k, k < conduct.tries ∧
    ∀ draft, t.draftAt (Path.parent path) (conduct.draw k) = .ok draft → t.entryAt draft.place = none

namespace Tree

/-- A file stands at the end of a path, and nothing else has changed but for directories that were
made where nothing stood. -/
structure Installs (t t' : Tree) (path : String) (content : ByteArray) : Prop where
  start : t'.start = t.start
  reads : t'.read path = .ok content
  elsewhere : ∃ place, t'.find path = .ok place ∧ t.entryAt place ≠ some .directory ∧
    ∀ q, q ≠ place → t'.entryAt q = t.entryAt q ∨
      t.entryAt q = none ∧ t'.entryAt q = some .directory

/-- What an attempt to install a file leaves when it fails. Only a draft that cannot be removed is
more than what was there and the directories on the way. -/
structure Abandons (conduct : Conduct) (t t' : Tree) : Prop where
  keeps : t.Keeps t'
  beside : ∃ place, ∀ q, q ≠ place → t'.entryAt q = t.entryAt q ∨
    t.entryAt q = none ∧ t'.entryAt q = some .directory
  onlyMakes : conduct.refusedRemoval = none → t.OnlyMakes t'

/-- The directory of a path is there and takes drafts, and no directory stands at the path itself. -/
structure Opens (t : Tree) (path : String) (place : Place) : Prop where
  sound : checkPath (Path.parent path) .nulByte = .ok ()
  origin : t.entryAt (t.origin path) = some .directory
  leads : ∃ here, t.Leads (t.origin path) (Path.names (Path.parent path)) here
  draft : ∃ letters draft, t.draftAt (Path.parent path) letters = .ok draft
  target : t.target path .nulByte = .ok place
  file : t.entryAt place ≠ some .directory

section Puts

variable {t t' t₁ : Tree} {path : String} {place : Place} {content : ByteArray}

namespace Puts

theorem here (h : t.Puts t' path content place) : t'.entryAt place = some (.file content) := by
  rw [h.entry, if_pos rfl]

theorem keepsDirectories (h : t.Puts t' path content place) : t.KeepsDirectories t' := by
  refine ⟨h.start, ?_⟩
  intro q hq
  rw [h.entry, if_neg, hq]
  rintro rfl
  exact h.file hq

theorem installs (hmakes : t.OnlyMakes t₁) (h : t₁.Puts t' path content place) :
    t.Installs t' path content := by
  have hfind := find_of_target h.target
  refine ⟨h.start.trans hmakes.start, ?_, place, hfind, ?_, ?_⟩
  · simp only [read, hfind, entryAt_eq_file_iff.mp h.here]
  · intro hbefore
    exact h.file (hmakes.keepsDirectories.directory place hbefore)
  · intro q hq
    rw [h.entry, if_neg hq]
    exact hmakes.entry q

/-- A file that is put in place of its like changes nothing. -/
theorem same (h : t.Puts t' path content place) (hlike : t.entryAt place = some (.file content)) :
    t.Same t' := by
  refine ⟨h.start, ?_⟩
  intro q
  rw [h.entry]
  split
  · rename_i hq
    rw [hq, hlike]
  · rfl

end Puts

theorem origin_parent (t : Tree) (path : String) : t.origin (Path.parent path) = t.origin path := by
  simp only [origin, isAbsolute_parent]

/-- Where a file was put one can be put again. -/
theorem Puts.opens {here : Place} {letters : Letters} {draft : Draft}
    (hsound : checkPath (Path.parent path) .nulByte = .ok ())
    (hleads : t.Leads (t.origin path) (Path.names (Path.parent path)) here)
    (hdraft : t.draftAt (Path.parent path) letters = .ok draft)
    (h : t.Puts t' path content place) : t'.Opens path place := by
  have hkeeps := h.keepsDirectories
  have horigin : t.entryAt (t.origin path) = some .directory := by
    obtain ⟨_, _, hwalk, hhere, _⟩ := draftAt_ok hdraft
    rw [origin_parent] at hwalk
    exact walk_from hwalk hhere
  have hsame : t'.origin path = t.origin path := by simp only [origin, hkeeps.start]
  refine ⟨hsound, ?_, ⟨here, ?_⟩, ⟨letters, draftAt_other hkeeps hdraft letters⟩, h.target, ?_⟩
  · rw [hsame]
    exact hkeeps.directory _ horigin
  · rw [hsame]
    exact hleads.kept hkeeps horigin
  · simp [h.here]

end Puts

section Publishing

variable {t t' t₁ : Tree} {draft : Draft} {path : String} {content : ByteArray} {place : Place}
variable (input : ByteArray) (conduct : Conduct)

/-- Publishing against a tree, step by step: the first step that is refused ends it. -/
theorem publish_run (t : Tree) (draft : Draft) (path : String) (content : ByteArray) :
    ((host input conduct).publish draft path content).run t =
      match t.writeDraft conduct draft content with
      | (.error fault, t) => (.error fault, t)
      | (.ok (), t) =>
        match t.flushDraft conduct draft with
        | (.error fault, t) => (.error fault, t)
        | (.ok (), t) => t.moveDraft conduct draft path := by
  simp only [Host.publish, StateT.run, bind, StateT.bind]
  dsimp only [host]
  rcases t.writeDraft conduct draft content with ⟨fault | written, t₁⟩
  · rfl
  · dsimp only [bind, StateT.bind]
    rcases t₁.flushDraft conduct draft with ⟨fault | flushed, t₂⟩ <;> rfl

/-- Installing against a tree, step by step. Only a draft that was made is removed. -/
theorem install_run (t : Tree) (path : String) (content : ByteArray) :
    ((host input conduct).install path content).run t =
      match t.makeDirectories (Path.parent path) conduct.refusedDirectory with
      | (.error fault, t) => (.error fault, t)
      | (.ok (), t) =>
        match t.createDraft conduct (Path.parent path) with
        | (.error fault, t) => (.error fault, t)
        | (.ok draft, t) =>
          match ((host input conduct).publish draft path content).run t with
          | (.ok (), t) => (.ok (), t)
          | (.error fault, t) => (.error fault, (t.removeDraft conduct draft).2) := by
  have hmake : (host input conduct).makeDirectories (Path.parent path) t =
    t.makeDirectories (Path.parent path) conduct.refusedDirectory := by dsimp only [host]
  have hcreate (t : Tree) : (host input conduct).createDraft (Path.parent path) t =
    t.createDraft conduct (Path.parent path) := by dsimp only [host]
  simp only [Host.install, StateT.run, bind, StateT.bind, hmake]
  rcases t.makeDirectories (Path.parent path) conduct.refusedDirectory with ⟨fault | made, t₁⟩
  · rfl
  · simp only [StateT.bind, bind, hcreate]
    rcases t₁.createDraft conduct (Path.parent path) with ⟨fault | draft, t₂⟩
    · rfl
    · dsimp only [StateT.bind, bind]
      rcases (host input conduct).publish draft path content t₂ with ⟨fault | published, t₃⟩ <;> rfl

/-- Standard input is not read. -/
theorem install_eq (t : Tree) (path : String) (content : ByteArray) :
    ((host input conduct).install path content).run t = t.install path content conduct := by
  rw [install, install_run, install_run]
  simp only [publish_run]

/-- A draft is published, or it still stands in its place with a part of what was to be written. -/
theorem publish_cases (h : t.Drafted t' draft content) (path : String) (new : ByteArray) :
    (∃ fault t'' part, ((host input conduct).publish draft path new).run t' = (.error fault, t'') ∧
      t.Drafted t'' draft part) ∨
    ∃ place t'', ((host input conduct).publish draft path new).run t' = (.ok (), t'') ∧
      t.Puts t'' path new place := by
  rw [publish_run]
  rcases writeDraft_cases conduct h new with ⟨fault, t₁, part, hwrite, hpart⟩ | ⟨t₁, hwrite, hnew⟩
  · exact .inl ⟨fault, t₁, part, by simp only [hwrite], hpart⟩
  · cases hflush : conduct.refusedFlush with
    | some fault =>
      exact .inl ⟨.atPath fault draft.path, t₁, new, by simp only [hwrite, flushDraft, hflush], hnew⟩
    | none =>
      rcases moveDraft_cases conduct hnew path with ⟨fault, hmove⟩ | ⟨place, t₂, hmove, hputs⟩
      · exact .inl ⟨fault, t₁, new, by simp only [hwrite, flushDraft, hflush, hmove], hnew⟩
      · exact .inr ⟨place, t₂, by simp only [hwrite, flushDraft, hflush, hmove], hputs⟩

theorem OnlyMakes.abandons (h : t.OnlyMakes t') : Abandons conduct t t' :=
  ⟨h.keeps, ⟨[], fun q _ => h.entry q⟩, fun _ => h⟩

theorem removeDraft_abandons (hmakes : t.OnlyMakes t₁) (h : t₁.Drafted t' draft content) :
    Abandons conduct t (t'.removeDraft conduct draft).2 := by
  cases hr : conduct.refusedRemoval with
  | some fault =>
    simp only [removeDraft, hr]
    refine ⟨hmakes.keeps.trans h.keeps, ⟨draft.place, ?_⟩, by simp [hr]⟩
    intro q hq
    rw [h.entry, if_neg hq]
    exact hmakes.entry q
  | none =>
    simp only [removeDraft, hr]
    exact (hmakes.same h.removed).abandons conduct

/-- Wherever installing a file fails, what was there before is there afterwards. When it succeeds
nothing is left of the draft, and the file can be installed again. -/
theorem install_cases (t : Tree) (path : String) (content : ByteArray) :
    (∃ fault t', t.install path content conduct = (.error fault, t') ∧ Abandons conduct t t') ∨
      ∃ place t', t.install path content conduct = (.ok (), t') ∧ t.Installs t' path content ∧
        t'.Opens path place ∧ t'.entryAt place = some (.file content) := by
  rw [install, install_run]
  rcases makeDirectories_cases conduct.refusedDirectory t (Path.parent path) with
    ⟨fault, t₁, hmake, hmakes⟩ | ⟨here, t₁, hmake, hmakes, hsound, hleads⟩
  · exact .inl ⟨fault, t₁, by simp only [hmake], hmakes.abandons conduct⟩
  · rcases createDraft_cases conduct t₁ (Path.parent path) with
      ⟨fault, hcreate⟩ | ⟨draft, t₂, hcreate, hdrafted, letters, hdraft⟩
    · exact .inl ⟨fault, t₁, by simp only [hmake, hcreate], hmakes.abandons conduct⟩
    · rcases publish_cases .empty conduct hdrafted path content with
        ⟨fault, t₃, part, hpublish, hpart⟩ | ⟨place, t₃, hpublish, hputs⟩
      · exact .inl ⟨fault, _, by simp only [hmake, hcreate, hpublish],
          removeDraft_abandons conduct hmakes hpart⟩
      · rw [origin_parent] at hleads
        have hstart : t.origin path = t₁.origin path := by simp only [origin, hmakes.start]
        exact .inr ⟨place, t₃, by simp only [hmake, hcreate, hpublish], hputs.installs hmakes,
          hputs.opens hsound (hstart ▸ hleads) hdraft, hputs.here⟩

/-- Nothing stops a draft on its way to where no directory stands, if the system is willing. -/
theorem publish_ok (h : t.Drafted t' draft content) (hw : conduct.Willing t path)
    (ht : t.target path .nulByte = .ok place) (hd : t.entryAt place ≠ some .directory)
    (new : ByteArray) :
    ∃ t'', ((host input conduct).publish draft path new).run t' = (.ok (), t'') ∧
      t.Puts t'' path new place := by
  have hnew : t.Drafted (t'.put draft.place (.file new)) draft new := h.rewritten
  have hd' : (t'.put draft.place (.file new)).entryAt place ≠ some .directory := by
    rw [hnew.entry]
    split
    · simp
    · exact hd
  obtain ⟨t'', hmove, hputs⟩ := moveDraft_ok conduct hnew
    (target_kept hnew.keeps.keepsDirectories ht) hd' hw.move
  refine ⟨t'', ?_, hputs⟩
  rw [publish_run]
  simp only [writeDraft, hw.write, flushDraft, hw.flush, hmove]

/-- Where a path opens to a file, one is installed. -/
theorem Opens.install (h : t.Opens path place) (hw : conduct.Willing t path)
    (content : ByteArray) :
    ∃ t', t.install path content conduct = (.ok (), t') ∧ t.Puts t' path content place := by
  obtain ⟨here, hleads⟩ := h.leads
  obtain ⟨letters, draft, hdraft⟩ := h.draft
  have horigin := h.origin
  rw [← origin_parent] at hleads horigin
  have hmake := hleads.makeDirectories conduct.refusedDirectory h.sound horigin
  obtain ⟨k, hk, hnew⟩ := hw.fresh
  obtain ⟨drawn, hdraw⟩ := drawDraft_of_new (k := 0) conduct hdraft hk (by rwa [Nat.zero_add])
  obtain ⟨t₁, hcreate, hdrafted⟩ := createDraft_ok conduct hdraw hw.create
  obtain ⟨t', hpublish, hputs⟩ := publish_ok .empty conduct hdrafted hw h.target h.file content
  refine ⟨t', ?_, hputs⟩
  rw [Tree.install, install_run]
  simp only [hmake, hcreate, hpublish]

end Publishing

end Tree

end Files

end AbiBindings
