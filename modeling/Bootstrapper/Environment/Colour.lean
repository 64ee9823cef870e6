import Bootstrapper.Environment.Variables

/-!
# Colour

What the environment says about colours in what is printed. A wish for none goes before a wish for
some; without a wish a terminal gets colours if it can draw them.
-/

namespace Bootstrapper

namespace Variables

def isFilled (vars : Variables) (name : String) : Bool :=
  (vars.get name).any fun value => !value.isEmpty

def holdsText (vars : Variables) (name text : String) : Bool :=
  vars.get name = some (Utf8.encode text)

end Variables

def colourVariables : List String := ["NO_COLOR", "CLICOLOR_FORCE", "CLICOLOR", "TERM", "CI"]

def drawsColours (vars : Variables) : Bool :=
  ((vars.get "TERM").isSome && !vars.holdsText "TERM" "dumb")
    || (vars.get "CLICOLOR").isSome || (vars.get "CI").isSome

def wantsColours (vars : Variables) (isTerminal : Bool) : Bool :=
  -- the first variable with a wish decides
  if vars.isFilled "NO_COLOR" then false
  else if vars.isFilled "CLICOLOR_FORCE" then true
  else if vars.holdsText "CLICOLOR" "0" then false
  else isTerminal && drawsColours vars

end Bootstrapper
