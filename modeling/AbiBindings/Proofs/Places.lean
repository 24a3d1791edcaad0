import AbiBindings.Files.Tree
import Mathlib

namespace AbiBindings.Files

/-- What stands at a place by itself, without what a directory holds. -/
inductive Entry where
  | directory
  | file (content : ByteArray)
  deriving DecidableEq

namespace Node

def entry : Node → Entry
  | .directory _ => .directory
  | .file content => .file content

def IsLeaf (n : Node) : Prop := ∀ name, n.child? name = none

def entryAt (n : Node) (place : Place) : Option Entry := (n.at? place).map entry

section Lookup

variable {n : Node} {name name' : String} {place rest : Place}

@[simp] theorem entryAt_nil (n : Node) : n.entryAt [] = some n.entry := rfl

theorem entryAt_cons (n : Node) (name : String) (place : Place) :
    n.entryAt (name :: place) = (n.child? name).bind (·.entryAt place) := by
  simp only [entryAt, at?, Option.map_bind]
  rfl

theorem at?_append (n : Node) (place rest : Place) :
    n.at? (place ++ rest) = (n.at? place).bind (·.at? rest) := by
  induction place generalizing n with
  | nil => rfl
  | cons name place ih =>
    simp only [List.cons_append, at?, Option.bind_assoc]
    exact congrArg _ (funext fun child => ih child)

theorem isLeaf_empty : Node.empty.IsLeaf := fun _ => rfl

theorem isLeaf_file (content : ByteArray) : (Node.file content).IsLeaf := fun _ => rfl

theorem IsLeaf.entryAt_cons (h : n.IsLeaf) (name : String) (place : Place) :
    n.entryAt (name :: place) = none := by
  rw [Node.entryAt_cons, h name]
  rfl

theorem entry_of_child? {child : Node} (h : n.child? name = some child) : n.entry = .directory := by
  cases n with
  | directory children => rfl
  | file content => cases h

/-- Whatever stands somewhere stands in a directory. -/
theorem entryAt_dropLast (h : n.entryAt place ≠ none) (hne : place ≠ []) :
    n.entryAt place.dropLast = some .directory := by
  obtain ⟨before, name, rfl⟩ := List.eq_nil_or_concat place |>.resolve_left hne
  rw [List.concat_eq_append, List.dropLast_concat]
  rw [List.concat_eq_append, entryAt, at?_append] at h
  cases hb : n.at? before with
  | none => simp [hb] at h
  | some node =>
    cases hc : node.child? name with
    | none => simp [hb, at?, hc] at h
    | some child => simp [entryAt, hb, entry_of_child? hc]

end Lookup

section Children

variable {n child : Node} {name name' : String}

theorem lookup_filter_ne (children : List (String × Node)) (h : name' ≠ name) :
    (children.filter fun c => c.1 ≠ name).lookup name' = children.lookup name' := by
  induction children with
  | nil => rfl
  | cons c children ih =>
    obtain ⟨key, node⟩ := c
    by_cases hk : key = name
    · have hne : (name' == key) = false := by simpa [hk] using h
      rw [List.filter_cons_of_neg (by simpa using hk), List.lookup_cons, hne]
      exact ih
    · rw [List.filter_cons_of_pos (by simpa using hk), List.lookup_cons, List.lookup_cons, ih]

theorem child?_withChild (h : n.entry = .directory) (name' : String) :
    (n.withChild name child).child? name' =
      if name' = name then some child else n.child? name' := by
  cases n with
  | file content => cases h
  | directory children =>
    by_cases he : name' = name
    · simp [withChild, child?, he]
    · have hne : (name' == name) = false := by simpa using he
      rw [withChild, child?, List.lookup_cons, hne, if_neg he]
      exact lookup_filter_ne children he

theorem entry_withChild (n : Node) (name : String) (child : Node) :
    (n.withChild name child).entry = n.entry := by
  cases n <;> rfl

theorem child?_withoutChild (n : Node) (name name' : String) :
    (n.withoutChild name).child? name' = if name' = name then none else n.child? name' := by
  cases n with
  | file content => simp [withoutChild, child?]
  | directory children =>
    by_cases he : name' = name
    · subst he
      rw [withoutChild, child?, if_pos rfl, List.lookup_eq_none_iff]
      intro c hc
      have hne : c.1 ≠ name' := by simpa using (List.mem_filter.mp hc).2
      exact bne_iff_ne.mpr hne.symm
    · rw [withoutChild, child?, if_neg he]
      exact lookup_filter_ne children he

end Children

section Puts

variable {n new child : Node} {name : String} {place rest : Place}

theorem put_of_none (h : n.child? name = none) (hrest : rest ≠ []) :
    n.put new (name :: rest) = n := by
  cases rest with
  | nil => exact absurd rfl hrest
  | cons next rest => simp only [put, h]

theorem put_of_child (h : n.child? name = some child) (hrest : rest ≠ []) :
    n.put new (name :: rest) = n.withChild name (child.put new rest) := by
  cases rest with
  | nil => exact absurd rfl hrest
  | cons next rest => simp only [put, h]

/-- A child that holds nothing, given in place of one that holds nothing, is all that changes. -/
theorem entryAt_withChild (hold : ∀ old, n.child? name = some old → old.IsLeaf) (hnew : new.IsLeaf)
    (q : Place) : (n.withChild name new).entryAt q =
      if q = [name] ∧ n.entry = .directory then some new.entry else n.entryAt q := by
  cases q with
  | nil => simp [entry_withChild]
  | cons name' q =>
    cases n with
    | file content => simp [withChild, entry]
    | directory children =>
      rw [entryAt_cons, child?_withChild rfl]
      by_cases hname : name' = name
      · subst hname
        cases q with
        | nil => simp [entry]
        | cons next q =>
          have hbelow : (Node.directory children).entryAt (name' :: next :: q) = none := by
            rw [entryAt_cons]
            cases hc : (Node.directory children).child? name' with
            | none => rfl
            | some old => exact (hold old hc).entryAt_cons next q
          simpa [hbelow] using hnew.entryAt_cons next q
      · simp [hname, entryAt_cons]

/-- Something that holds nothing, put where no directory stands, changes what stands there, if the
place has a directory around it. It changes nothing else. -/
theorem entryAt_put (hne : place ≠ []) (hold : ∀ old, n.at? place = some old → old.IsLeaf)
    (hnew : new.IsLeaf) (q : Place) : (n.put new place).entryAt q =
      if q = place ∧ n.entryAt place.dropLast = some .directory then some new.entry
      else n.entryAt q := by
  induction place generalizing n q with
  | nil => exact absurd rfl hne
  | cons name rest ih =>
    by_cases hrest : rest = []
    · subst hrest
      have hchild : ∀ old, n.child? name = some old → old.IsLeaf := by
        intro old hc
        exact hold old (by simp [at?, hc])
      simpa [put] using entryAt_withChild hchild hnew q
    · rw [List.dropLast_cons_of_ne_nil hrest]
      cases hc : n.child? name with
      | none => simp [put_of_none hc hrest, entryAt_cons, hc]
      | some child =>
        have hbelow : ∀ old, child.at? rest = some old → old.IsLeaf := by
          intro old ho
          exact hold old (by simp [at?, hc, ho])
        rw [put_of_child hc hrest]
        cases q with
        | nil => simp [entry_withChild]
        | cons name' q =>
          rw [entryAt_cons, child?_withChild (entry_of_child? hc)]
          by_cases hname : name' = name
          · subst hname
            simpa [entryAt_cons, hc] using ih hrest hbelow q
          · simp [hname, entryAt_cons]

end Puts

section Removals

variable {n child : Node} {name : String} {place rest : Place}

theorem remove_of_child (h : n.child? name = some child) (hrest : rest ≠ []) :
    n.remove (name :: rest) = n.withChild name (child.remove rest) := by
  cases rest with
  | nil => exact absurd rfl hrest
  | cons next rest => simp only [remove, h]

theorem remove_of_none (h : n.child? name = none) (hrest : rest ≠ []) :
    n.remove (name :: rest) = n := by
  cases rest with
  | nil => exact absurd rfl hrest
  | cons next rest => simp only [remove, h]

theorem entryAt_withoutChild (hold : ∀ old, n.child? name = some old → old.IsLeaf) (q : Place) :
    (n.withoutChild name).entryAt q = if q = [name] then none else n.entryAt q := by
  cases q with
  | nil => cases n <;> simp [withoutChild, entry]
  | cons name' q =>
    rw [entryAt_cons, entryAt_cons, child?_withoutChild]
    by_cases hname : name' = name
    · subst hname
      cases q with
      | nil => simp
      | cons next q =>
        cases hc : n.child? name' with
        | none => simp
        | some old => simp [(hold old hc).entryAt_cons]
    · simp [hname]

/-- Where something is removed that holds nothing, nothing stands afterwards. Nothing else changes. -/
theorem entryAt_remove (hne : place ≠ []) (hold : ∀ old, n.at? place = some old → old.IsLeaf)
    (q : Place) : (n.remove place).entryAt q = if q = place then none else n.entryAt q := by
  induction place generalizing n q with
  | nil => exact absurd rfl hne
  | cons name rest ih =>
    by_cases hrest : rest = []
    · subst hrest
      have hchild : ∀ old, n.child? name = some old → old.IsLeaf := by
        intro old hc
        exact hold old (by simp [at?, hc])
      exact entryAt_withoutChild hchild q
    · cases hc : n.child? name with
      | none =>
        rw [remove_of_none hc hrest]
        split
        · rename_i hq
          subst hq
          simp [entryAt_cons, hc]
        · rfl
      | some child =>
        have hbelow : ∀ old, child.at? rest = some old → old.IsLeaf := by
          intro old ho
          exact hold old (by simp [at?, hc, ho])
        rw [remove_of_child hc hrest]
        cases q with
        | nil => simp [entry_withChild]
        | cons name' q =>
          rw [entryAt_cons, child?_withChild (entry_of_child? hc)]
          by_cases hname : name' = name
          · subst hname
            simpa [entryAt_cons, hc] using ih hrest hbelow q
          · simp [hname, entryAt_cons]

end Removals

end Node

end AbiBindings.Files
