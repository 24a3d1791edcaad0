import AbiBindings.Files.Tree
import AbiBindings.Proofs.Basic
import AbiBindings.Proofs.Places

namespace AbiBindings

namespace Files.Tree

def entryAt (t : Tree) (place : Place) : Option Entry := t.root.entryAt place

/-- Nothing has changed but for directories that were made where nothing stood. -/
structure OnlyMakes (t t' : Tree) : Prop where
  start : t'.start = t.start
  entry : ∀ place, t'.entryAt place = t.entryAt place ∨
    t.entryAt place = none ∧ t'.entryAt place = some .directory

/-- Whatever stood somewhere still stands there as it was. -/
structure Keeps (t t' : Tree) : Prop where
  start : t'.start = t.start
  entry : ∀ place entry, t.entryAt place = some entry → t'.entryAt place = some entry

/-- The same stands at every place. The order in which a directory lists its names is not compared. -/
structure Same (t t' : Tree) : Prop where
  start : t'.start = t.start
  entry : ∀ place, t'.entryAt place = t.entryAt place

/-- Every directory is still one, and relative paths start where they did. -/
structure KeepsDirectories (t t' : Tree) : Prop where
  start : t'.start = t.start
  directory : ∀ place, t.entryAt place = some .directory → t'.entryAt place = some .directory

section Relations

variable {t t' t'' : Tree}

theorem OnlyMakes.refl (t : Tree) : t.OnlyMakes t := ⟨rfl, fun _ => .inl rfl⟩

theorem OnlyMakes.trans (h : t.OnlyMakes t') (h' : t'.OnlyMakes t'') : t.OnlyMakes t'' := by
  refine ⟨h'.start.trans h.start, ?_⟩
  intro place
  rcases h'.entry place with he' | ⟨hnone', hmade'⟩
  · rw [he']
    exact h.entry place
  · rcases h.entry place with he | ⟨_, hmade⟩
    · exact .inr ⟨he ▸ hnone', hmade'⟩
    · rw [hmade] at hnone'
      cases hnone'

/-- Directories are made only where nothing stood, so what stood is kept. -/
theorem OnlyMakes.keeps (h : t.OnlyMakes t') : t.Keeps t' := by
  refine ⟨h.start, ?_⟩
  intro place entry he
  rcases h.entry place with hsame | ⟨hnone, _⟩
  · exact hsame.trans he
  · rw [he] at hnone
    cases hnone

theorem OnlyMakes.same (h : t.OnlyMakes t') (h' : t'.Same t'') : t.OnlyMakes t'' :=
  h.trans ⟨h'.start, fun place => .inl (h'.entry place)⟩

theorem Keeps.trans (h : t.Keeps t') (h' : t'.Keeps t'') : t.Keeps t'' :=
  ⟨h'.start.trans h.start, fun place entry he => h'.entry place entry (h.entry place entry he)⟩

theorem KeepsDirectories.refl (t : Tree) : t.KeepsDirectories t := ⟨rfl, fun _ => id⟩

theorem Keeps.keepsDirectories (h : t.Keeps t') : t.KeepsDirectories t' :=
  ⟨h.start, fun place => h.entry place .directory⟩

theorem OnlyMakes.keepsDirectories (h : t.OnlyMakes t') : t.KeepsDirectories t' :=
  h.keeps.keepsDirectories

end Relations

section Walking

variable {t t' : Tree} {here place : Place} {name : String} {names : List String}

theorem entryAt_eq (t : Tree) (place : Place) :
    t.entryAt place = (t.node? place).map Node.entry := rfl

theorem entryAt_eq_directory_iff : t.entryAt place = some .directory ↔
    ∃ children, t.node? place = some (.directory children) := by
  rw [entryAt_eq]
  cases t.node? place with
  | none => simp
  | some n => cases n <;> simp [Node.entry]

theorem entryAt_eq_file_iff {content : ByteArray} : t.entryAt place = some (.file content) ↔
    t.node? place = some (.file content) := by
  rw [entryAt_eq]
  cases t.node? place with
  | none => simp
  | some n => cases n <;> simp [Node.entry]

/-- A step is taken from a directory. It stays, goes up, or goes to a name within. -/
theorem step_ok (h : t.step here name = .ok place) : t.entryAt here = some .directory ∧
    (place = here ∨ place = here.dropLast ∨ place = here ++ [name]) := by
  simp only [step] at h
  split at h
  · cases h
  · cases h
  · rename_i children hn
    refine ⟨entryAt_eq_directory_iff.mpr ⟨children, hn⟩, ?_⟩
    split at h
    · cases h
      exact .inl rfl
    · split at h
      · cases h
        exact .inr (.inl rfl)
      · split at h
        · cases h
        · cases h
          exact .inr (.inr rfl)

/-- Where a step leads depends on nothing but the directory it is taken from. -/
theorem step_kept (hd : t.KeepsDirectories t') (h : t.step here name = .ok place) :
    t'.step here name = .ok place := by
  obtain ⟨hhere, _⟩ := step_ok h
  obtain ⟨children, hn⟩ := entryAt_eq_directory_iff.mp hhere
  obtain ⟨children', hn'⟩ := entryAt_eq_directory_iff.mp (hd.directory here hhere)
  simp only [step, hn] at h
  simp only [step, hn', h]

theorem walk_cons (h : t.walk here (name :: names) = .ok place) :
    ∃ next, t.step here name = .ok next ∧ t.walk next names = .ok place := by
  simp only [walk] at h
  split at h
  · cases h
  · rename_i next hs
    exact ⟨next, hs, h⟩

theorem walk_kept (hd : t.KeepsDirectories t') (h : t.walk here names = .ok place) :
    t'.walk here names = .ok place := by
  induction names generalizing here with
  | nil => exact h
  | cons name names ih =>
    obtain ⟨next, hs, hw⟩ := walk_cons h
    simp only [walk, step_kept hd hs, ih hw]

theorem walk_concat (h : t.walk here names = .ok place) (last : String) :
    t.walk here (names ++ [last]) = t.step place last := by
  induction names generalizing here with
  | nil =>
    cases h
    cases hs : t.step place last <;> simp [walk, hs]
  | cons name names ih =>
    obtain ⟨next, hs, hw⟩ := walk_cons h
    simp only [List.cons_append, walk, hs, ih hw]

/-- What a step leads to is a directory, or it has its place within one. -/
theorem step_reaches (h : t.step here name = .ok place)
    (hnot : t.entryAt place ≠ some .directory) :
    place ≠ [] ∧ t.entryAt place.dropLast = some .directory := by
  obtain ⟨hhere, hplace⟩ := step_ok h
  rcases hplace with rfl | rfl | rfl
  · exact absurd hhere hnot
  · refine absurd ?_ hnot
    by_cases hroot : here = []
    · subst hroot
      exact hhere
    · exact Node.entryAt_dropLast (n := t.root) (by rw [← entryAt, hhere]; simp) hroot
  · exact ⟨by simp, by simpa using hhere⟩

theorem walk_reaches (h : t.walk here names = .ok place) (hne : names ≠ [])
    (hnot : t.entryAt place ≠ some .directory) :
    place ≠ [] ∧ t.entryAt place.dropLast = some .directory := by
  induction names generalizing here with
  | nil => exact absurd rfl hne
  | cons name names ih =>
    obtain ⟨next, hs, hw⟩ := walk_cons h
    cases names with
    | nil =>
      cases hw
      exact step_reaches hs hnot
    | cons name' names => exact ih hw (by simp)

end Walking

section Making

variable {t t' : Tree} {here place : Place} {steps : List String} {path : String}
variable (refused : Place → Option Fault)

/-- A directory made where nothing stood is all that changes. -/
theorem entryAt_put_empty (hnone : t.entryAt place = none) (q : Place) :
    (t.put place .empty).entryAt q =
      if q = place ∧ t.entryAt place.dropLast = some .directory then some .directory
      else t.entryAt q := by
  have hne : place ≠ [] := by
    rintro rfl
    cases hnone
  have hold : ∀ old, t.root.at? place = some old → old.IsLeaf := by
    intro old ho
    simp [entryAt, Node.entryAt, ho] at hnone
  exact Node.entryAt_put hne hold Node.isLeaf_empty q

theorem onlyMakes_put (hnone : t.entryAt place = none) : t.OnlyMakes (t.put place .empty) := by
  refine ⟨rfl, ?_⟩
  intro q
  rw [entryAt_put_empty hnone]
  split
  · rename_i hq
    rw [hq.1]
    exact .inr ⟨hnone, rfl⟩
  · exact .inl rfl

/-- The directory that steps from a directory lead to. -/
structure Leads (t : Tree) (here : Place) (steps : List String) (place : Place) : Prop where
  walk : t.walk here steps = .ok place
  directory : t.entryAt here = some .directory → t.entryAt place = some .directory

theorem Leads.kept (hd : t.KeepsDirectories t') (h : t.Leads here steps place)
    (hhere : t.entryAt here = some .directory) : t'.Leads here steps place :=
  ⟨walk_kept hd h.walk, fun _ => hd.directory place (h.directory hhere)⟩

/-- Making one directory changes nothing else. When it fails it changes nothing at all. -/
theorem ensureDirectory_cases (t : Tree) (here : Place) (steps : List String) :
    (∃ fault, t.ensureDirectory refused here steps = (.error fault, t)) ∨
      ∃ place t', t.ensureDirectory refused here steps = (.ok place, t') ∧ t.OnlyMakes t' ∧
        t'.Leads here steps place := by
  cases hw : t.walk here steps with
  | error fault => exact .inl ⟨fault, by simp only [ensureDirectory, hw]⟩
  | ok place =>
    cases hn : t.node? place with
    | none =>
      have hnone : t.entryAt place = none := by rw [entryAt_eq, hn, Option.map_none]
      have hmakes := onlyMakes_put hnone
      cases hr : refused place with
      | some fault => exact .inl ⟨fault, by simp only [ensureDirectory, hw, hn, hr]⟩
      | none =>
        refine .inr ⟨place, t.put place .empty, by simp only [ensureDirectory, hw, hn, hr], hmakes,
          walk_kept hmakes.keepsDirectories hw, ?_⟩
        intro hhere
        by_cases hsteps : steps = []
        · subst hsteps
          cases hw
          exact hhere
        · have hreaches := walk_reaches hw hsteps (by simp [hnone])
          rw [entryAt_put_empty hnone, if_pos ⟨rfl, hreaches.2⟩]
    | some node =>
      cases node with
      | file content => exact .inl ⟨.alreadyThere, by simp only [ensureDirectory, hw, hn]⟩
      | directory children =>
        exact .inr ⟨place, t, by simp only [ensureDirectory, hw, hn], .refl t, hw,
          fun _ => entryAt_eq_directory_iff.mpr ⟨children, hn⟩⟩

/-- A directory that is there is not made again. -/
theorem Leads.ensureDirectory (h : t.Leads here steps place)
    (hhere : t.entryAt here = some .directory) :
    t.ensureDirectory refused here steps = (.ok place, t) := by
  obtain ⟨children, hn⟩ := entryAt_eq_directory_iff.mp (h.directory hhere)
  simp only [Tree.ensureDirectory, h.walk, hn]

theorem makeFrom_onlyMakes (t : Tree) (here : Place) (names : List String) :
    t.OnlyMakes (t.makeFrom refused here names).2 := by
  induction names generalizing t here with
  | nil => exact .refl t
  | cons name names ih =>
    rcases ensureDirectory_cases refused t here [name] with
      ⟨fault, he⟩ | ⟨place, t', he, hmakes, _⟩
    · simp only [makeFrom, he]
      exact .refl t
    · simp only [makeFrom, he]
      exact hmakes.trans (ih t' place)

/-- Whatever is missing, nothing but directories comes about on the way. -/
theorem makePlace_cases (t : Tree) (here : Place) (path : String) :
    ∃ made t', t.makePlace refused here path = (made, t') ∧ t.OnlyMakes t' ∧
      ∀ place, made = .ok place → t'.Leads here (Path.names path) place := by
  rcases ensureDirectory_cases refused t here (Path.names path) with
    ⟨fault, he⟩ | ⟨place, t', he, hmakes, hleads⟩
  · by_cases hfault : fault = .notFound
    · subst hfault
      -- The directories above are made one after another before the last one is tried again.
      obtain ⟨⟨above, t₁⟩, ha⟩ :
        ∃ p, t.makeFrom refused here (Path.moves path).dropLast = p := ⟨_, rfl⟩
      have hmakes₁ : t.OnlyMakes t₁ := by
        have hm := makeFrom_onlyMakes refused t here (Path.moves path).dropLast
        rwa [ha] at hm
      cases above with
      | error fault =>
        exact ⟨.error fault, t₁, by simp only [makePlace, he, ha], hmakes₁, by rintro _ ⟨⟩⟩
      | ok place =>
        rcases ensureDirectory_cases refused t₁ here (Path.names path) with
          ⟨fault, he₁⟩ | ⟨place, t₂, he₁, hmakes₂, hleads⟩
        · exact ⟨.error fault, t₁, by simp only [makePlace, he, ha, he₁], hmakes₁,
            by rintro _ ⟨⟩⟩
        · refine ⟨.ok place, t₂, by simp only [makePlace, he, ha, he₁], hmakes₁.trans hmakes₂, ?_⟩
          rintro _ ⟨⟩
          exact hleads
    · refine ⟨.error fault, t, ?_, .refl t, by rintro _ ⟨⟩⟩
      unfold makePlace
      rw [he]
      split
      · rename_i hsame
        cases hsame
        exact absurd rfl hfault
      · rfl
  · refine ⟨.ok place, t', by simp only [makePlace, he], hmakes, ?_⟩
    rintro _ ⟨⟩
    exact hleads

variable {onNul onNul' : Fault}

theorem checkPath_ok (h : checkPath path onNul = .ok ()) : checkPath path onNul' = .ok () := by
  simp only [checkPath] at h ⊢
  split
  · rename_i hnul
    rw [if_pos hnul] at h
    cases h
  · rename_i hnul
    rwa [if_neg hnul] at h

/-- Directories are made down to the end of a path, or as far as nothing is in the way. -/
theorem makeDirectories_cases (t : Tree) (path : String) :
    (∃ fault t', t.makeDirectories path refused = (.error fault, t') ∧ t.OnlyMakes t') ∨
      ∃ place t', t.makeDirectories path refused = (.ok (), t') ∧ t.OnlyMakes t' ∧
        checkPath path .nulByte = .ok () ∧
        t'.Leads (t.origin path) (Path.names path) place := by
  cases hc : checkPath path .nulByte with
  | error fault => exact .inl ⟨fault, t, by simp only [makeDirectories, hc], .refl t⟩
  | ok =>
    obtain ⟨made, t', hm, hmakes, hleads⟩ := makePlace_cases refused t (t.origin path) path
    cases made with
    | error fault =>
      exact .inl ⟨fault, t', by simp only [makeDirectories, hc, hm, Except.map], hmakes⟩
    | ok place =>
      exact .inr ⟨place, t', by simp only [makeDirectories, hc, hm, Except.map], hmakes, rfl,
        hleads place rfl⟩

/-- Directories that are there are not made again, and nothing can be refused of them. -/
theorem Leads.makeDirectories (hc : checkPath path .nulByte = .ok ())
    (h : t.Leads (t.origin path) (Path.names path) place)
    (horigin : t.entryAt (t.origin path) = some .directory) :
    t.makeDirectories path refused = (.ok (), t) := by
  simp only [Tree.makeDirectories, hc, makePlace, h.ensureDirectory refused horigin, Except.map]

theorem dropIdle_suffix (cs : List Char) : Path.dropIdle cs <:+ cs := by
  fun_induction Path.dropIdle cs with
  | case1 cs ih => exact ih.trans (List.suffix_cons ..)
  | case2 cs ih => exact ih.trans ((List.suffix_cons ..).trans (List.suffix_cons ..))
  | case3 cs => exact List.suffix_refl cs

/-- A path starts from where the path of its directory starts. -/
theorem isAbsolute_parent (path : String) :
    Path.isAbsolute (Path.parent path) = Path.isAbsolute path := by
  obtain ⟨cs, hcs⟩ : ∃ cs, Path.dropIdle ((Path.dropIdle path.toList.reverse).dropWhile
    (· ≠ '/')) = cs := ⟨_, rfl⟩
  have hsuffix : cs <:+ path.toList.reverse := by
    rw [← hcs]
    exact (dropIdle_suffix _).trans ((List.dropWhile_suffix _).trans (dropIdle_suffix _))
  obtain ⟨rest, hrest⟩ : cs.reverse <+: path.toList := by
    simpa using List.reverse_prefix.mpr hsuffix
  simp only [Path.parent, hcs]
  cases cs with
  | nil => cases habsolute : Path.isAbsolute path <;> decide
  | cons c cs =>
    cases hc : (c :: cs).reverse with
    | nil => simp at hc
    | cons first front =>
      simp only [Path.isAbsolute, String.startsWith_char_eq_head?, String.toList_ofList, ← hrest, hc]
      rfl

end Making

end Files.Tree

end AbiBindings
