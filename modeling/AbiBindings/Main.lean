import AbiBindings.CommandLine.Run

namespace AbiBindings

namespace Files

def Fault.ofError : IO.Error → Fault
  | .noFileOrDirectory .. => .notFound
  | .alreadyExists .. => .alreadyThere
  | .inappropriateType _ 21 _ => .isDirectory
  | .inappropriateType .. => .notDirectory
  | e => .other (toString e)

def attempt {α : Type} (action : IO α) : IO (Except Fault α) := do
  try return .ok (← action)
  catch e => return .error (.ofError e)

def readAll (input : IO.FS.Stream) : IO ByteArray := do
  let mut content := ByteArray.empty
  repeat
    let chunk ← input.read 65536
    if chunk.isEmpty then break
    content := content ++ chunk
  return content

def attemptAt {α : Type} (path : String) (action : IO α) : IO (Except Fault α) := do
  match ← attempt action with
  | .ok a => return .ok a
  | .error fault => return .error (.atPath fault path)

def ensureDirectory (path : String) : IO (Except Fault Unit) := do
  match ← attempt (IO.FS.createDir path) with
  | .ok () => return .ok ()
  | .error fault =>
    if ← ((← IO.currentDir) / path).isDir then return .ok () else return .error fault

/-- The directories above are made only if one of them is missing. -/
def makeDirectories (path : String) : IO (Except Fault Unit) := do
  match ← ensureDirectory path with
  | .error .notFound =>
    let mut above := if Path.isAbsolute path then "/" else ""
    for name in (Path.moves path).dropLast do
      above := Path.join above name
      match ← ensureDirectory above with
      | .ok () => pure ()
      | .error fault => return .error fault
    ensureDirectory path
  | settled => return settled

structure OpenDraft where
  path : String
  handle : IO.FS.Handle

def drawLetters : IO Letters := do return .ofNumber (← IO.rand 0 999999)

def openDraft (directory : String) : Nat → IO (Except Fault OpenDraft)
  | 0 => return .error (.atPath (.other "too many temporary files exist") directory)
  | tries + 1 => do
    let start ← IO.currentDir
    let path := Path.join (Path.join start.toString directory) (← drawLetters).draftName
    match ← attemptAt path (IO.FS.Handle.mk path .writeNew) with
    | .ok handle => return .ok ⟨path, handle⟩
    | .error (.atPath .alreadyThere _) => openDraft directory tries
    | .error fault => return .error fault

def systemHost : Host IO where
  Draft := OpenDraft
  readFile path := attempt (IO.FS.readBinFile path)
  readInput := do readAll (← IO.getStdin)
  makeDirectories := makeDirectories
  createDraft directory := openDraft directory 65536
  writeDraft draft content := attemptAt draft.path (draft.handle.write content)
  flushDraft draft := attemptAt draft.path draft.handle.flush
  moveDraft draft path := attempt (IO.FS.rename draft.path path)
  removeDraft draft := attempt (IO.FS.removeFile draft.path)

end Files

end AbiBindings

def main (arguments : List String) : IO UInt32 := do
  let report ← AbiBindings.CommandLine.run AbiBindings.Files.systemHost arguments
  IO.print report.out
  IO.eprint report.err
  return report.exit.toUInt32
