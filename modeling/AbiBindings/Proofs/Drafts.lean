import AbiBindings.Files.Draft
import AbiBindings.Proofs.AsciiNames
import AbiBindings.Proofs.OutputPaths

namespace AbiBindings

namespace Files

namespace Letters

variable (letters : Letters)

theorem utf8Len_alphanum {cs : List Char} (h : ∀ c ∈ cs, c.isAlphanum) :
    String.utf8Len cs = cs.length := by
  induction cs with
  | nil => rfl
  | cons c cs ih =>
    obtain ⟨hc, hcs⟩ := List.forall_mem_cons.mp h
    have hsize : c.utf8Size = 1 :=
      Char.utf8Size_eq_one_iff.mpr (Nat.le_of_lt_succ (Text.lt_of_isAlphanum hc))
    rw [String.utf8Len_cons, ih hcs, hsize, List.length_cons]

theorem utf8ByteSize_draftName : letters.draftName.utf8ByteSize = 10 := by
  have htext : letters.text.utf8ByteSize = 6 := by
    rw [← String.ofList_toList (s := letters.text), String.utf8ByteSize_ofList,
      utf8Len_alphanum letters.alphanumeric, String.length_toList, letters.length_eq]
  rw [draftName, String.utf8ByteSize_append, htext]
  rfl

theorem draftName_ne {name : String} (h : name.utf8ByteSize < 10) : letters.draftName ≠ name := by
  rintro rfl
  rw [utf8ByteSize_draftName] at h
  exact Nat.lt_irrefl _ h

theorem not_mem_draftName {c : Char} (hc : c.isAlphanum = false) (hdot : c ∉ ".tmp".toList) :
    c ∉ letters.draftName.toList := by
  intro hm
  rw [draftName, String.toList_append] at hm
  rcases List.mem_append.mp hm with hm | hm
  · exact hdot hm
  · rw [letters.alphanumeric c hm] at hc
    cases hc

theorem isPlainName_draftName : IsPlainName letters.draftName where
  nonempty := letters.draftName_ne (by decide)
  notHere := letters.draftName_ne (by decide)
  notAbove := letters.draftName_ne (by decide)
  noSeparator := letters.not_mem_draftName (by decide) (by decide)
  noNul := letters.not_mem_draftName (by decide) (by decide)

end Letters

namespace Tree

section Targets

variable {t t' : Tree} {here place : Place} {names : List String} {path : String}
variable {content : ByteArray} {onNul onNul' : Fault}

/-- A target is a step away from the directory that the steps before the last lead to. -/
theorem target_ok (h : t.target path onNul = .ok place) :
    ∃ here name, checkPath path onNul = .ok () ∧
      t.walk (t.origin path) (Path.steps path).dropLast = .ok here ∧
      (Path.steps path).getLast? = some name ∧ t.step here name = .ok place := by
  simp only [target] at h
  split at h
  · cases h
  · rename_i hc
    split at h
    · cases h
    · rename_i here hw
      split at h
      · cases h
      · rename_i name hl
        exact ⟨here, name, hc, hw, hl, h⟩

theorem walk_origin_kept (hd : t.KeepsDirectories t')
    (h : t.walk (t.origin path) names = .ok place) :
    t'.walk (t'.origin path) names = .ok place := by
  have hkept := walk_kept hd h
  simpa only [origin, hd.start] using hkept

/-- Whatever is done to files, a path leads to the same target. -/
theorem target_kept (hd : t.KeepsDirectories t') (h : t.target path onNul = .ok place) :
    t'.target path onNul' = .ok place := by
  obtain ⟨here, name, hc, hw, hl, hs⟩ := target_ok h
  have hw' := walk_origin_kept hd hw
  have hc' : checkPath path onNul' = .ok () := checkPath_ok hc
  simp only [target, hc', hw', hl, step_kept hd hs]

theorem find_of_target (h : t.target path onNul = .ok place) : t.find path = .ok place := by
  obtain ⟨here, name, hc, hw, hl, hs⟩ := target_ok h
  have hc' : checkPath path .nulByte = .ok () := checkPath_ok hc
  simp only [find, hc']
  rw [← List.dropLast_append_getLast? name hl, walk_concat hw, hs]

/-- Where no directory stands, a target has its place within one. -/
theorem target_reaches (h : t.target path onNul = .ok place)
    (hnot : t.entryAt place ≠ some .directory) :
    place ≠ [] ∧ t.entryAt place.dropLast = some .directory := by
  obtain ⟨_, _, _, _, _, hs⟩ := target_ok h
  exact step_reaches hs hnot

/-- Where steps lead to a directory they start from one. -/
theorem walk_from (h : t.walk here names = .ok place) (hd : t.entryAt place = some .directory) :
    t.entryAt here = some .directory := by
  cases names with
  | nil =>
    cases h
    exact hd
  | cons name names =>
    obtain ⟨next, hs, _⟩ := walk_cons h
    exact (step_ok hs).1

theorem isLeaf_of_entryAt (hd : t.entryAt place ≠ some .directory) :
    ∀ old, t.root.at? place = some old → old.IsLeaf := by
  intro old ho
  cases old with
  | directory children => exact absurd (entryAt_eq_directory_iff.mpr ⟨children, ho⟩) hd
  | file old => exact Node.isLeaf_file old

theorem entryAt_put_file (hne : place ≠ []) (hd : t.entryAt place ≠ some .directory) (q : Place) :
    (t.put place (.file content)).entryAt q =
      if q = place ∧ t.entryAt place.dropLast = some .directory then some (.file content)
      else t.entryAt q :=
  Node.entryAt_put hne (isLeaf_of_entryAt hd) (Node.isLeaf_file content) q

theorem entryAt_erase (hne : place ≠ []) (hd : t.entryAt place ≠ some .directory) (q : Place) :
    (t.erase place).entryAt q = if q = place then none else t.entryAt q :=
  Node.entryAt_remove hne (isLeaf_of_entryAt hd) q

end Targets

section Names

variable {t t' : Tree} {here place : Place} {name directory : String} {draft : Draft}

/-- Whether a path is too long does not depend on which name of a length ends it. -/
theorem checkPath_replaced {front name name' : String} {onNul : Fault}
    (hnul : '\x00' ∉ name'.toList) (hsize : name'.utf8ByteSize = name.utf8ByteSize)
    (h : checkPath (front ++ name) onNul = .ok ()) :
    checkPath (front ++ name') onNul = .ok () := by
  simp only [checkPath, String.toList_append, String.utf8ByteSize_append] at h ⊢
  grind

theorem step_name (hhere : t.entryAt here = some .directory) (hn : IsPlainName name)
    (hshort : name.utf8ByteSize ≤ maxName) : t.step here name = .ok (here ++ [name]) := by
  obtain ⟨children, hnode⟩ := entryAt_eq_directory_iff.mp hhere
  simp only [step, hnode, if_neg hn.notHere, if_neg hn.notAbove, if_neg (Nat.not_lt.mpr hshort)]

/-- A draft is placed in the directory that a path leads to, if the path from the root on is not too
long. -/
theorem draftAt_ok {letters : Letters} (h : t.draftAt directory letters = .ok draft) :
    ∃ here, checkPath (Path.join (t.absolute directory) letters.draftName) .nulByte = .ok () ∧
      t.walk (t.origin directory) (Path.steps directory) = .ok here ∧
      t.entryAt here = some .directory ∧ draft.place = here ++ [letters.draftName] := by
  simp only [draftAt] at h
  split at h
  · cases h
  · rename_i hc
    split at h
    · cases h
    · rename_i here hw
      split at h
      · cases h
      · rename_i place hs
        cases h
        exact ⟨here, hc, hw, (step_ok hs).1, step_plain letters.isPlainName_draftName hs⟩

/-- All names of drafts have the same length, so a directory takes every one of them or none. -/
theorem draftAt_other {letters : Letters} (hd : t.KeepsDirectories t')
    (h : t.draftAt directory letters = .ok draft) (letters' : Letters) :
    ∃ draft', t'.draftAt directory letters' = .ok draft' := by
  obtain ⟨here, hc, hw, hhere, _⟩ := draftAt_ok h
  have hpath :
      checkPath (Path.join (t'.absolute directory) letters'.draftName) .nulByte = .ok () := by
    have habsolute : t'.absolute directory = t.absolute directory := by
      simp only [absolute, hd.start]
    rw [Path.join_plain letters.isPlainName_draftName] at hc
    rw [habsolute, Path.join_plain letters'.isPlainName_draftName]
    exact checkPath_replaced letters'.isPlainName_draftName.noNul
      (by rw [letters.utf8ByteSize_draftName, letters'.utf8ByteSize_draftName]) hc
  have hwalk := walk_origin_kept hd hw
  have hstep : t'.step here letters'.draftName = .ok (here ++ [letters'.draftName]) :=
    step_name (hd.directory here hhere) letters'.isPlainName_draftName
      (by rw [letters'.utf8ByteSize_draftName]; decide)
  exact ⟨⟨Path.join (t'.absolute directory) letters'.draftName, here ++ [letters'.draftName]⟩,
    by simp only [draftAt, hpath, hwalk, hstep]⟩

end Names

section Drafts

variable {t t' : Tree} {draft : Draft} {letters : Letters} {directory path : String}
variable {content content' : ByteArray} {place : Place} (conduct : Conduct)

/-- A draft stands where nothing stood, and nothing else has changed. -/
structure Drafted (t t' : Tree) (draft : Draft) (content : ByteArray) : Prop where
  start : t'.start = t.start
  new : t.entryAt draft.place = none
  entry : ∀ q, t'.entryAt q = if q = draft.place then some (.file content) else t.entryAt q

/-- A file is put where a path leads, and no directory stood there. -/
structure Puts (t t' : Tree) (path : String) (content : ByteArray) (place : Place) : Prop where
  start : t'.start = t.start
  target : t'.target path .nulByte = .ok place
  file : t.entryAt place ≠ some .directory
  entry : ∀ q, t'.entryAt q = if q = place then some (.file content) else t.entryAt q

namespace Drafted

theorem here (h : t.Drafted t' draft content) :
    t'.entryAt draft.place = some (.file content) := by
  rw [h.entry, if_pos rfl]

theorem place_ne_nil (h : t.Drafted t' draft content) : draft.place ≠ [] := by
  intro hnil
  have hnew := h.new
  rw [hnil] at hnew
  cases hnew

/-- The tree has changed only where nothing stood. -/
theorem keeps (h : t.Drafted t' draft content) : t.Keeps t' := by
  refine ⟨h.start, ?_⟩
  intro q entry hq
  rw [h.entry, if_neg, hq]
  rintro rfl
  rw [h.new] at hq
  cases hq

theorem of_put (hnew : t.entryAt draft.place = none)
    (hparent : t.entryAt draft.place.dropLast = some .directory) :
    t.Drafted (t.put draft.place (.file content)) draft content := by
  have hne : draft.place ≠ [] := by
    intro hnil
    rw [hnil] at hnew
    cases hnew
  refine ⟨rfl, hnew, ?_⟩
  intro q
  rw [entryAt_put_file hne (by simp [hnew])]
  simp only [hparent, and_true]

theorem rewritten (h : t.Drafted t' draft content) :
    t.Drafted (t'.put draft.place (.file content')) draft content' := by
  have hparent : t'.entryAt draft.place.dropLast = some .directory :=
    Node.entryAt_dropLast (n := t'.root) (by rw [← entryAt, h.here]; simp) h.place_ne_nil
  refine ⟨h.start, h.new, ?_⟩
  intro q
  rw [entryAt_put_file h.place_ne_nil (by simp [h.here])]
  simp only [hparent, and_true]
  split
  · rfl
  · rename_i hq
    rw [h.entry, if_neg hq]

/-- Without its draft the tree is what it was. -/
theorem removed (h : t.Drafted t' draft content) : t.Same (t'.erase draft.place) := by
  refine ⟨h.start, ?_⟩
  intro q
  rw [entryAt_erase h.place_ne_nil (by simp [h.here])]
  split
  · rename_i hq
    rw [hq, h.new]
  · rename_i hq
    rw [h.entry, if_neg hq]

/-- A draft that is already where a path leads stays there. -/
theorem stays (h : t.Drafted t' draft content)
    (ht : t'.target path .invalidArgument = .ok draft.place) :
    t.Puts t' path content draft.place :=
  ⟨h.start, target_kept (.refl t') ht, by simp [h.new], h.entry⟩

theorem entryAt_moved (h : t.Drafted t' draft content) (hne : place ≠ [])
    (hparent : t'.entryAt place.dropLast = some .directory)
    (hd : t'.entryAt place ≠ some .directory) (hother : place ≠ draft.place) (q : Place) :
    ((t'.erase draft.place).put place (.file content)).entryAt q =
      if q = place then some (.file content) else t.entryAt q := by
  have herased := entryAt_erase h.place_ne_nil (t := t') (by simp [h.here])
  have hd' : (t'.erase draft.place).entryAt place ≠ some .directory := by
    rwa [herased, if_neg hother]
  have hparent' : (t'.erase draft.place).entryAt place.dropLast = some .directory := by
    rw [herased, if_neg, hparent]
    -- The draft is a file, so nothing has its place within it.
    intro hdraft
    rw [hdraft, h.here] at hparent
    cases hparent
  rw [entryAt_put_file hne hd', hparent', herased, h.entry]
  simp only [and_true]
  split
  · rfl
  · split
    · rename_i hq
      rw [hq, h.new]
    · rfl

/-- A draft that is moved leaves nothing where it was. -/
theorem moved (h : t.Drafted t' draft content) (ht : t'.target path .invalidArgument = .ok place)
    (hd : t'.entryAt place ≠ some .directory) (hother : place ≠ draft.place) :
    t.Puts ((t'.erase draft.place).put place (.file content)) path content place := by
  obtain ⟨hne, hparent⟩ := target_reaches ht hd
  have hentry := h.entryAt_moved hne hparent hd hother
  have hkeeps : t'.KeepsDirectories ((t'.erase draft.place).put place (.file content)) := by
    refine ⟨rfl, ?_⟩
    intro q hq
    rw [hentry, if_neg]
    · rw [h.entry] at hq
      split at hq
      · cases hq
      · exact hq
    · rintro rfl
      exact hd hq
  refine ⟨h.start, target_kept hkeeps ht, ?_, hentry⟩
  rwa [h.entry, if_neg hother] at hd

end Drafted

/-- Whatever was drawn before, nothing stands where a draft is to be made. -/
theorem drawDraft_ok {tries k : Nat} (h : t.drawDraft conduct directory tries k = .ok draft) :
    (∃ letters, t.draftAt directory letters = .ok draft) ∧ t.entryAt draft.place = none := by
  induction tries generalizing k with
  | zero =>
    simp only [drawDraft] at h
    cases h
  | succ tries ih =>
    simp only [drawDraft] at h
    split at h
    · cases h
    · rename_i drawn hdraft
      split at h
      · exact ih h
      · rename_i hn
        cases h
        exact ⟨⟨_, hdraft⟩, by rw [entryAt_eq, hn, Option.map_none]⟩

/-- The first new name is drawn, if one of the names that may be drawn is new. -/
theorem drawDraft_of_new {tries k i : Nat} (hdraft : t.draftAt directory letters = .ok draft)
    (hi : i < tries) (hnew : ∀ drawn, t.draftAt directory (conduct.draw (k + i)) = .ok drawn →
      t.entryAt drawn.place = none) :
    ∃ drawn, t.drawDraft conduct directory tries k = .ok drawn := by
  induction tries generalizing k i with
  | zero => exact absurd hi (Nat.not_lt_zero i)
  | succ tries ih =>
    obtain ⟨drawn, hdrawn⟩ := draftAt_other (.refl t) hdraft (conduct.draw k)
    cases hn : t.node? drawn.place with
    | none => exact ⟨drawn, by simp only [drawDraft, hdrawn, hn]⟩
    | some node =>
      cases i with
      | zero =>
        have hnone := hnew drawn hdrawn
        simp [entryAt_eq, hn] at hnone
      | succ i =>
        have hk : k + (i + 1) = k + 1 + i := by omega
        obtain ⟨later, hlater⟩ := ih (Nat.lt_of_succ_lt_succ hi) (hk ▸ hnew)
        exact ⟨later, by simp only [drawDraft, hdrawn, hn, hlater]⟩

theorem createDraft_ok (hdraw : t.drawDraft conduct directory conduct.tries 0 = .ok draft)
    (hr : conduct.refusedDraft = none) :
    ∃ t', t.createDraft conduct directory = (.ok draft, t') ∧ t.Drafted t' draft .empty := by
  obtain ⟨⟨letters, hat⟩, hnew⟩ := drawDraft_ok conduct hdraw
  obtain ⟨here, _, _, hhere, hplace⟩ := draftAt_ok hat
  refine ⟨_, by simp only [createDraft, hdraw, hr], .of_put hnew ?_⟩
  rw [hplace, List.dropLast_concat, hhere]

/-- A draft is new in a directory, or the tree stays as it is. -/
theorem createDraft_cases (t : Tree) (directory : String) :
    (∃ fault, t.createDraft conduct directory = (.error fault, t)) ∨
      ∃ draft t', t.createDraft conduct directory = (.ok draft, t') ∧ t.Drafted t' draft .empty ∧
        ∃ letters, t.draftAt directory letters = .ok draft := by
  cases hdraw : t.drawDraft conduct directory conduct.tries 0 with
  | error fault => exact .inl ⟨fault, by simp only [createDraft, hdraw]⟩
  | ok draft =>
    cases hr : conduct.refusedDraft with
    | some fault =>
      exact .inl ⟨.atPath fault draft.path, by simp only [createDraft, hdraw, hr]⟩
    | none =>
      obtain ⟨t', hcreate, hdrafted⟩ := createDraft_ok conduct hdraw hr
      exact .inr ⟨draft, t', hcreate, hdrafted, (drawDraft_ok conduct hdraw).1⟩

/-- Writing changes what a draft holds, also when it stops early, and nothing else. -/
theorem writeDraft_cases (h : t.Drafted t' draft content) (new : ByteArray) :
    (∃ fault t'' part, t'.writeDraft conduct draft new = (.error fault, t'') ∧
      t.Drafted t'' draft part) ∨
    ∃ t'', t'.writeDraft conduct draft new = (.ok (), t'') ∧ t.Drafted t'' draft new := by
  cases hr : conduct.refusedContent with
  | some refusal =>
    obtain ⟨count, fault⟩ := refusal
    exact .inl ⟨.atPath fault draft.path, t'.put draft.place (.file (new.extract 0 count)), _,
      by simp only [writeDraft, hr], h.rewritten⟩
  | none => exact .inr ⟨_, by simp only [writeDraft, hr], h.rewritten⟩

/-- Where no directory is in the way a draft is moved to its place. -/
theorem moveDraft_ok (h : t.Drafted t' draft content)
    (ht : t'.target path .invalidArgument = .ok place) (hd : t'.entryAt place ≠ some .directory)
    (hr : conduct.refusedMove = none) :
    ∃ t'', t'.moveDraft conduct draft path = (.ok (), t'') ∧ t.Puts t'' path content place := by
  have hfile := entryAt_eq_file_iff.mp h.here
  by_cases hsame : place = draft.place
  · subst hsame
    exact ⟨t', by simp only [moveDraft, hr, ht, hfile, if_true], h.stays ht⟩
  · refine ⟨(t'.erase draft.place).put place (.file content), ?_, h.moved ht hd hsame⟩
    simp only [moveDraft, hr, ht, hfile, if_neg hsame]
    cases hn : t'.node? place with
    | none => rfl
    | some node =>
      cases node with
      | directory children => exact absurd (entryAt_eq_directory_iff.mpr ⟨children, hn⟩) hd
      | file old => rfl

/-- A draft is moved to its place, or it stays where it is. -/
theorem moveDraft_cases (h : t.Drafted t' draft content) (path : String) :
    (∃ fault, t'.moveDraft conduct draft path = (.error fault, t')) ∨
      ∃ place t'', t'.moveDraft conduct draft path = (.ok (), t'') ∧
        t.Puts t'' path content place := by
  cases hr : conduct.refusedMove with
  | some fault => exact .inl ⟨fault, by simp only [moveDraft, hr]⟩
  | none =>
    cases ht : t'.target path .invalidArgument with
    | error fault => exact .inl ⟨fault, by simp only [moveDraft, hr, ht]⟩
    | ok place =>
      by_cases hd : t'.entryAt place = some .directory
      · obtain ⟨children, hn⟩ := entryAt_eq_directory_iff.mp hd
        have hfile := entryAt_eq_file_iff.mp h.here
        exact .inl ⟨.isDirectory, by simp only [moveDraft, hr, ht, hfile, hn]⟩
      · obtain ⟨t'', hmove, hputs⟩ := moveDraft_ok conduct h ht hd hr
        exact .inr ⟨place, t'', hmove, hputs⟩

end Drafts

end Tree

end Files

end AbiBindings
