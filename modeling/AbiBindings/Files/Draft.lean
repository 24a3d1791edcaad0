import AbiBindings.Files.Tree

namespace AbiBindings.Files

/-- What tells the names of drafts from each other. -/
structure Letters where
  text : String
  length_eq : text.length = 6
  alphanumeric : ∀ c ∈ text.toList, c.isAlphanum

namespace Letters

theorem isAlphanum_digitChar (n : Nat) : (Nat.digitChar (n % 10)).isAlphanum := by
  have hlt : n % 10 < 10 := Nat.mod_lt n (by decide)
  generalize n % 10 = d at hlt
  revert d
  decide

/-- The last six decimal digits of a number, from the lowest on. -/
def ofNumber (k : Nat) : Letters where
  text := String.ofList ((List.range 6).map fun i => Nat.digitChar (k / Nat.pow 10 i % 10))
  length_eq := by simp
  alphanumeric := by
    intro c hc
    rw [String.toList_ofList] at hc
    obtain ⟨i, _, rfl⟩ := List.mem_map.mp hc
    exact isAlphanum_digitChar _

-- It stays folded where a match looks at a path, as a text takes long to unfold.
@[irreducible] def draftName (letters : Letters) : String := ".tmp" ++ letters.text

end Letters

/-- What the tree does not settle while a file is written: the letters drawn for the name of a draft,
how often they are drawn, and what the system refuses although the tree allows it. Content may be
refused when a part of it is written. -/
structure Conduct where
  draw : Nat → Letters := Letters.ofNumber
  tries : Nat := 65536
  refusedDirectory : Place → Option Fault := fun _ => none
  refusedDraft : Option Fault := none
  refusedContent : Option (Nat × Fault) := none
  refusedFlush : Option Fault := none
  refusedMove : Option Fault := none
  refusedRemoval : Option Fault := none

/-- A file that is not yet where it belongs. -/
structure Draft where
  path : String
  place : Place

namespace Tree

def absolute (t : Tree) (path : String) : String :=
  if Path.isAbsolute path then path else Path.join ("/" ++ "/".intercalate t.start) path

/-- A draft is opened by a path from the root on, which may be too long though the path of the
directory is not. -/
def draftAt (t : Tree) (directory : String) (letters : Letters) : Except Fault Draft :=
  let path := Path.join (t.absolute directory) letters.draftName
  match checkPath path .nulByte with
  | .error fault => .error (.atPath fault path)
  | .ok () =>
    match t.walk (t.origin directory) (Path.steps directory) with
    | .error fault => .error (.atPath fault path)
    | .ok here =>
      match t.step here letters.draftName with
      | .error fault => .error (.atPath fault path)
      | .ok place => .ok ⟨path, place⟩

variable (conduct : Conduct)

/-- Draws letters until the name they make is new. -/
def drawDraft (t : Tree) (directory : String) : Nat → Nat → Except Fault Draft
  | 0, _ => .error (.atPath (.other "too many temporary files exist") directory)
  | tries + 1, k =>
    match t.draftAt directory (conduct.draw k) with
    | .error fault => .error fault
    | .ok draft =>
      match t.node? draft.place with
      | some _ => t.drawDraft directory tries (k + 1)
      | none => .ok draft

def createDraft (t : Tree) (directory : String) : Except Fault Draft × Tree :=
  match t.drawDraft conduct directory conduct.tries 0 with
  | .error fault => (.error fault, t)
  | .ok draft =>
    match conduct.refusedDraft with
    | some fault => (.error (.atPath fault draft.path), t)
    | none => (.ok draft, t.put draft.place (.file .empty))

def writeDraft (t : Tree) (draft : Draft) (content : ByteArray) : Except Fault Unit × Tree :=
  match conduct.refusedContent with
  | some (count, fault) =>
    (.error (.atPath fault draft.path), t.put draft.place (.file (content.extract 0 count)))
  | none => (.ok (), t.put draft.place (.file content))

def flushDraft (t : Tree) (draft : Draft) : Except Fault Unit × Tree :=
  match conduct.refusedFlush with
  | some fault => (.error (.atPath fault draft.path), t)
  | none => (.ok (), t)

def moveDraft (t : Tree) (draft : Draft) (path : String) : Except Fault Unit × Tree :=
  match conduct.refusedMove with
  | some fault => (.error fault, t)
  | none =>
    match t.target path .invalidArgument with
    | .error fault => (.error fault, t)
    | .ok place =>
      match t.node? draft.place, t.node? place with
      | none, _ => (.error .notFound, t)
      | some _, some (.directory _) => (.error .isDirectory, t)
      | some file, _ =>
        if place = draft.place then (.ok (), t)
        else (.ok (), (t.erase draft.place).put place file)

def removeDraft (t : Tree) (draft : Draft) : Except Fault Unit × Tree :=
  match conduct.refusedRemoval with
  | some fault => (.error fault, t)
  | none => (.ok (), t.erase draft.place)

end Tree

end AbiBindings.Files
