import AbiBindings.Compilation
import AbiBindings.Files.Draft
import AbiBindings.Render.Module

namespace AbiBindings

namespace Files

/-- What a run needs from outside: reading files and standard input, making directories, and the life
of a draft. -/
structure Host (m : Type → Type) where
  Draft : Type
  readFile : String → m (Except Fault ByteArray)
  readInput : m ByteArray
  makeDirectories : String → m (Except Fault Unit)
  /-- An empty file of a new name in a directory. -/
  createDraft : String → m (Except Fault Draft)
  writeDraft : Draft → ByteArray → m (Except Fault Unit)
  flushDraft : Draft → m (Except Fault Unit)
  moveDraft : Draft → String → m (Except Fault Unit)
  removeDraft : Draft → m (Except Fault Unit)

namespace Host

variable {m : Type → Type} [Monad m] (host : Host m)

def publish (draft : host.Draft) (path : String) (content : ByteArray) : m (Except Fault Unit) := do
  match ← host.writeDraft draft content with
  | .error fault => return .error fault
  | .ok () =>
    match ← host.flushDraft draft with
    | .error fault => return .error fault
    | .ok () => host.moveDraft draft path

/-- The file is written beside its place and then moved there. A draft that cannot be published is
removed, and the refusal told is the one that came first. -/
def install (path : String) (content : ByteArray) : m (Except Fault Unit) := do
  match ← host.makeDirectories (Path.parent path) with
  | .error fault => return .error fault
  | .ok () =>
    match ← host.createDraft (Path.parent path) with
    | .error fault => return .error fault
    | .ok draft =>
      match ← host.publish draft path content with
      | .ok () => return .ok ()
      | .error fault =>
        let _ ← host.removeDraft draft
        return .error fault

end Host

namespace Tree

def host (input : ByteArray) (conduct : Conduct := {}) : Host (StateM Tree) where
  Draft := Draft
  readFile path := fun t => (t.read path, t)
  readInput := fun t => (input, t)
  makeDirectories path := fun t => t.makeDirectories path conduct.refusedDirectory
  createDraft directory := fun t => t.createDraft conduct directory
  writeDraft draft content := fun t => t.writeDraft conduct draft content
  flushDraft draft := fun t => t.flushDraft conduct draft
  moveDraft draft path := fun t => t.moveDraft conduct draft path
  removeDraft draft := fun t => t.removeDraft conduct draft

def install (t : Tree) (path : String) (content : ByteArray) (conduct : Conduct := {}) :
    Except Fault Unit × Tree := ((host .empty conduct).install path content).run t

end Tree

end Files

def writeBindings {m : Type → Type} [Monad m] (host : Files.Host m) (b : ContractBindings)
    (text root : String) : m (Except Failure String) := do
  let path := b.outputPath root
  match ← host.install path text.toUTF8 with
  | .ok () => return .ok path
  | .error fault => return .error (.emission path fault)

/-- Compiles, renders and writes. Nothing is written unless everything before succeeds. -/
def generateBindings {m : Type → Type} [Monad m] (host : Files.Host m) (options : Options)
    (config : RenderConfig) (source : Source) (root : String) : m (Outcome String) := do
  let outcome := compile options source
  match outcome.result with
  | .error e => return ⟨outcome.diagnostics, .error e⟩
  | .ok b =>
    let written ← writeBindings host b (b.render config) root
    return ⟨outcome.diagnostics, written⟩

end AbiBindings
