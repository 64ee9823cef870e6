import Bootstrapper.IoError
import Bootstrapper.Text.Quoted
import Bootstrapper.Text.Utf8

/-!
# Failures of the start

Each cause is a constructor; its wording is in `message`. Paths and module names are carried as
the text that the message shows, with U+FFFD for what is not text.
-/

namespace Bootstrapper

/-- What the start can fail with (`PalError`). -/
inductive Failure
  | executablePath (error : IoError)
  | notUnicode (path : Bytes)
  | noDirectory (executable : String)
  | fullPath (path : String)
  | tooLong (length capacity : Nat)
  | interiorNul (text : String)
  | moduleLoad (name reason : String)
  | symbolNotFound (name symbol : String)
deriving DecidableEq, Repr

namespace Failure

def message : Failure → String
  | .executablePath error => "Failed to get the path of the running executable: " ++ error.message
  | .notUnicode path => "Path is not valid Unicode: " ++ Utf8.decodeLossy path
  | .noDirectory executable => "Executable path has no directory separator: " ++ executable
  | .fullPath path => "Failed to get full path of application base: " ++ path
  | .tooLong _ _ => "Full path of application base is too long"
  | .interiorNul text => "Argument contains an interior NUL byte: " ++ Text.quote text
  | .moduleLoad name reason => "Failed to load: " ++ name ++ " (" ++ reason ++ ")"
  | .symbolNotFound name symbol => "Failed to find export '" ++ symbol ++ "' in " ++ name

def source? : Failure → Option IoError
  | .executablePath error => some error
  | _ => none

/-- A failure told with its causes: what was attempted, what failed, and the error behind it. -/
def chain (context : String) (failure : Failure) : String :=
  let told := context ++ ": " ++ failure.message
  match failure.source? with
  | some error => told ++ ": " ++ error.message
  | none => told

end Failure

end Bootstrapper
