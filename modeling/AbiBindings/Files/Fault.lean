import AbiBindings.Text.Quoted

namespace AbiBindings.Files

inductive Fault where
  | notFound
  | alreadyThere
  | notDirectory
  | isDirectory
  | nameTooLong
  /-- A path with a NUL byte, which no call takes. -/
  | nulByte
  | invalidArgument
  | notText
  /-- A refusal that only the system can put into words. -/
  | other (text : String)
  /-- A refusal that tells which file it is about. -/
  | atPath (fault : Fault) (path : String)
  deriving DecidableEq, Repr

def Fault.message : Fault → String
  | .notFound => "No such file or directory (os error 2)"
  | .alreadyThere => "File exists (os error 17)"
  | .notDirectory => "Not a directory (os error 20)"
  | .isDirectory => "Is a directory (os error 21)"
  | .nameTooLong => "File name too long (os error 36)"
  | .nulByte => "file name contained an unexpected NUL byte"
  | .invalidArgument => "Invalid argument (os error 22)"
  | .notText => "stream did not contain valid UTF-8"
  | .other text => text
  | .atPath fault path => fault.message ++ " at path " ++ Text.quoted path

end AbiBindings.Files
