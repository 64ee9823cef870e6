import Bootstrapper.Text.Terminal

/-!
# Styled text

A text for people is made of pieces, and a terminal can draw each in a style of its own. Where
nobody draws, only the text is left; and what a user has typed is then shown without what a terminal
would obey.
-/

namespace Bootstrapper

/-- How a piece of text is drawn: the numbers of the renditions that a terminal is asked for. -/
structure Style where
  renditions : List Nat
deriving DecidableEq, Repr

namespace Style

def plain : Style := ⟨[]⟩

def bold : Style := ⟨[1]⟩

def heading : Style := ⟨[1, 4]⟩

def alarm : Style := ⟨[1, 31]⟩

def red : Style := ⟨[31]⟩

def green : Style := ⟨[32]⟩

def yellow : Style := ⟨[33]⟩

def blue : Style := ⟨[34]⟩

def cyan : Style := ⟨[36]⟩

def faint : Style := ⟨[90]⟩

def rendition (number : Nat) : String := "\x1b[" ++ toString number ++ "m"

/-- A text drawn in a style. Behind it the terminal goes back to none. -/
def draw (style : Style) (text : String) : String :=
  if style.renditions.isEmpty then text
  else String.join (style.renditions.map rendition) ++ text ++ rendition 0

end Style

/-- A piece of text in a style. `isTyped` if a user has typed it. -/
structure Piece where
  style : Style
  text : String
  isTyped : Bool
deriving DecidableEq, Repr

abbrev Styled := List Piece

namespace Styled

def fixed (style : Style) (text : String) : Styled := [⟨style, text, false⟩]

def plain (text : String) : Styled := fixed .plain text

def typed (style : Style) (text : String) : Styled := [⟨style, text, true⟩]

def drawn (styled : Styled) : String :=
  String.join (styled.map fun piece => piece.style.draw piece.text)

/-- The text where nobody draws. `clean` takes out of what a user has typed what a terminal would
obey. -/
def shown (clean : String → String) (styled : Styled) : String :=
  String.join (styled.map fun piece => if piece.isTyped then clean piece.text else piece.text)

def intercalate (between : Styled) : List Styled → Styled
  | [] => []
  | [styled] => styled
  | styled :: rest => styled ++ between ++ intercalate between rest

end Styled

end Bootstrapper
