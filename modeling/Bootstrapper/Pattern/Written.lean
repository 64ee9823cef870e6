import Bootstrapper.Pattern.Meaning
import Bootstrapper.Pattern.Reader
import Bootstrapper.Pattern.Search
import Bootstrapper.Pattern.Size

/-!
# Patterns as text

The pattern that a text stands for, or why it is rejected: what is wrong with the text comes first,
then what cannot be meant, then what is too large to be searched for.
-/

namespace Bootstrapper.Pattern

/-- Why a text is no pattern. -/
inductive Rejection
  | faulty (fault : Fault)
  | tooLarge
  | wideEdge
deriving DecidableEq, Repr

/-- The text that tells why a text is no pattern. -/
def Rejection.message (text : String) : Rejection → String
  | .faulty fault => fault.message text
  | .tooLarge => "Compiled regex exceeds size limit of " ++ toString sizeLimit ++ " bytes."
  | .wideEdge => "error building NFA"

def ofString? (text : String) : Except Rejection Pattern :=
  match Expression.ofString? text with
  | .error fault => .error (.faulty fault)
  | .ok expression =>
    match expression.meaning? .start with
    | .error fault => .error (.faulty fault)
    | .ok (meaning, _) =>
      if meaning.pattern.isTooLarge then .error .tooLarge
      else if meaning.isWide then .error .wideEdge
      else .ok meaning.pattern

end Bootstrapper.Pattern
