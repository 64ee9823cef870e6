import Bootstrapper.Pattern.Fault

/-!
# Written patterns

A pattern as it is written, with the place of every part in the text, before it is known what it
means: that depends on modes which the pattern itself switches on and off.
-/

namespace Bootstrapper.Pattern

/-- A mode of reading: letters in either case, lines with beginnings and ends of their own, a dot
for line ends too, the least match first, characters instead of ASCII, carriage returns as line
ends, blanks and comments left out. -/
inductive Mode
  | caseless
  | multiLine
  | dotAll
  | lazy
  | unicode
  | carriage
  | spaced
deriving DecidableEq, Repr

def mode? (c : Char) : Option Mode :=
  match c with
  | 'i' => some .caseless
  | 'm' => some .multiLine
  | 's' => some .dotAll
  | 'U' => some .lazy
  | 'u' => some .unicode
  | 'R' => some .carriage
  | 'x' => some .spaced
  | _ => none

structure Change where
  mode : Mode
  isOn : Bool
deriving DecidableEq, Repr

def stateOf? (mode : Mode) (changes : List Change) : Option Bool :=
  (changes.find? (·.mode = mode)).map (·.isOn)

/-- A character, written as itself, by an escape or by its number. `isByte` if the number has two
digits, so that it can be that of a byte. -/
structure Literal where
  span : Span
  char : Char
  isByte : Bool
deriving DecidableEq, Repr

inductive Shorthand
  | digits
  | blanks
  | words
deriving DecidableEq, Repr

/-- What can be said of the place between two characters. The halves look at one side only. -/
inductive Edge
  | lineStart
  | lineEnd
  | textStart
  | textEnd
  | word
  | noWord
  | wordStart
  | wordEnd
  | wordStartHalf
  | wordEndHalf
deriving DecidableEq, Repr

inductive Atom
  | literal (literal : Literal)
  | dot (span : Span)
  | edge (span : Span) (edge : Edge)
  | shorthand (span : Span) (isNegated : Bool) (shorthand : Shorthand)
  | property (span : Span) (name : String)
deriving DecidableEq, Repr

def Atom.span : Atom → Span
  | .literal l => l.span
  | .dot span | .edge span _ | .shorthand span _ _ | .property span _ => span

/-! ## Sets in brackets -/

/-- A set of ASCII characters that has a name. -/
inductive NamedSet
  | alnum
  | alpha
  | ascii
  | blank
  | cntrl
  | digit
  | graph
  | lower
  | print
  | punct
  | space
  | upper
  | word
  | xdigit
deriving DecidableEq, Repr

def namedSet? (name : String) : Option NamedSet :=
  match name with
  | "alnum" => some .alnum
  | "alpha" => some .alpha
  | "ascii" => some .ascii
  | "blank" => some .blank
  | "cntrl" => some .cntrl
  | "digit" => some .digit
  | "graph" => some .graph
  | "lower" => some .lower
  | "print" => some .print
  | "punct" => some .punct
  | "space" => some .space
  | "upper" => some .upper
  | "word" => some .word
  | "xdigit" => some .xdigit
  | _ => none

inductive Operation
  | intersection
  | difference
  | symmetricDifference
deriving DecidableEq, Repr

inductive SetExpression
  | nothing (span : Span)
  | literal (literal : Literal)
  | range (span : Span) (first last : Literal)
  | named (span : Span) (isNegated : Bool) (set : NamedSet)
  | shorthand (span : Span) (isNegated : Bool) (shorthand : Shorthand)
  | property (span : Span) (name : String)
  | brackets (span : Span) (isNegated : Bool) (content : SetExpression)
  | members (span : Span) (sets : List SetExpression)
  | joined (span : Span) (operation : Operation) (a b : SetExpression)
deriving Repr

def SetExpression.span : SetExpression → Span
  | .nothing span => span
  | .literal l => l.span
  | .range span _ _ | .named span _ _ | .shorthand span _ _ | .property span _
  | .brackets span _ _ | .members span _ | .joined span _ _ _ => span

/-! ## Expressions -/

inductive Expression
  | empty (span : Span)
  | modes (span : Span) (changes : List Change)
  | atom (atom : Atom)
  | set (set : SetExpression)
  | repeated (span : Span) (a : Expression) (least : Nat) (most : Option Nat)
  | group (span : Span) (captures : Bool) (changes : List Change) (a : Expression)
  | sequence (span : Span) (parts : List Expression)
  | either (span : Span) (branches : List Expression)
deriving Repr

def Expression.span : Expression → Span
  | .atom a => a.span
  | .set s => s.span
  | .empty span | .modes span _ | .repeated span _ _ _ | .group span _ _ _ | .sequence span _
  | .either span _ => span

/-! ## Nesting -/

mutual

def SetExpression.tooDeep? (left : Nat) : SetExpression → Option Span
  | .brackets span _ content =>
    match left with
    | 0 => some span
    | left + 1 => content.tooDeep? left
  | .members span sets =>
    match left with
    | 0 => some span
    | left + 1 => SetExpression.anyTooDeep? left sets
  | .joined span _ a b =>
    match left with
    | 0 => some span
    | left + 1 => (a.tooDeep? left).or (b.tooDeep? left)
  | _ => none

/-- The first part of some sets that is nested deeper than `left` levels. -/
def SetExpression.anyTooDeep? (left : Nat) : List SetExpression → Option Span
  | [] => none
  | set :: sets => (set.tooDeep? left).or (SetExpression.anyTooDeep? left sets)

end

mutual

/-- The first part of an expression that is nested deeper than `left` levels. -/
def Expression.tooDeep? (left : Nat) : Expression → Option Span
  | .set s => s.tooDeep? left
  | .repeated span a _ _ | .group span _ _ a =>
    match left with
    | 0 => some span
    | left + 1 => a.tooDeep? left
  | .sequence span parts | .either span parts =>
    match left with
    | 0 => some span
    | left + 1 => Expression.anyTooDeep? left parts
  | _ => none

/-- The first part of some expressions that is nested deeper than `left` levels. -/
def Expression.anyTooDeep? (left : Nat) : List Expression → Option Span
  | [] => none
  | a :: rest => (a.tooDeep? left).or (Expression.anyTooDeep? left rest)

end

end Bootstrapper.Pattern
