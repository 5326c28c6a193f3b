/-!
# Access to files

What the program needs of a file system: to read a file as text, and to write one. Both can fail,
and `AccessError.message` is what the program says then.
-/

namespace FineTuning.CommandLine

/-- Why a file cannot be read or written. -/
inductive AccessError where
  | noSuchFile
  | permissionDenied
  /-- The path goes on through a file. -/
  | notADirectory
  /-- The path is that of a directory. -/
  | isADirectory
  /-- The path, or a name in it, is longer than the system allows. -/
  | nameTooLong
  | other (text : String)
deriving DecidableEq

/-- The text of the error, with the number that the system gives it. -/
def AccessError.message : AccessError → String
  | .noSuchFile => "No such file or directory (os error 2)"
  | .permissionDenied => "Permission denied (os error 13)"
  | .notADirectory => "Not a directory (os error 20)"
  | .isADirectory => "Is a directory (os error 21)"
  | .nameTooLong => "File name too long (os error 36)"
  | .other text => text

/-- The error with a number of the system's. -/
def AccessError.ofCode? : Nat → Option AccessError
  | 2 => some .noSuchFile
  | 13 => some .permissionDenied
  | 20 => some .notADirectory
  | 21 => some .isADirectory
  | 36 => some .nameTooLong
  | _ => none

/-- Reads and writes files in the monad. -/
class FileAccess (m : Type → Type) where
  /-- The text of a file, or why it cannot be read. -/
  read : String → m (Except AccessError String)
  /-- Writes a file, or says why it cannot be written. -/
  write : String → (content : String) → m (Except AccessError Unit)

end FineTuning.CommandLine
