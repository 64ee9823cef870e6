import Bootstrapper.Pattern.Basic
import Bootstrapper.Pattern.Expression

/-!
# What expressions mean

The pattern that an expression stands for in the modes that hold where it stands. Properties of
characters beyond ASCII are not known here: sets that need them, words that need them and letters in
either case are refused, unless the mode is ASCII. In ASCII no set may reach beyond it, since it
would hold bytes that are not characters.
-/

namespace Bootstrapper.Pattern

structure Modes where
  caseless : Bool
  multiLine : Bool
  dotAll : Bool
  carriage : Bool
  unicode : Bool
deriving DecidableEq, Repr

namespace Modes

def start : Modes := ⟨false, false, false, false, true⟩

def change (modes : Modes) (changes : List Change) : Modes :=
  { caseless := (stateOf? .caseless changes).getD modes.caseless
    multiLine := (stateOf? .multiLine changes).getD modes.multiLine
    dotAll := (stateOf? .dotAll changes).getD modes.dotAll
    carriage := (stateOf? .carriage changes).getD modes.carriage
    unicode := (stateOf? .unicode changes).getD modes.unicode }

end Modes

def refuse {α : Type} (problem : Problem) (span : Span) : Except Fault α :=
  .error ⟨problem, span, none⟩

/-! ## Sets -/

def NamedSet.chars : NamedSet → CharSet
  | .alnum => .ofList [('0', '9'), ('A', 'Z'), ('a', 'z')]
  | .alpha => .ofList [('A', 'Z'), ('a', 'z')]
  | .ascii => .range '\x00' '\x7f'
  | .blank => .ofList [('\t', '\t'), (' ', ' ')]
  | .cntrl => .ofList [('\x00', '\x1f'), ('\x7f', '\x7f')]
  | .digit => .range '0' '9'
  | .graph => .range '!' '~'
  | .lower => .range 'a' 'z'
  | .print => .range ' ' '~'
  | .punct => .ofList [('!', '/'), (':', '@'), ('[', '\x60'), ('\x7b', '~')]
  | .space => .ofList [('\t', '\r'), (' ', ' ')]
  | .upper => .range 'A' 'Z'
  | .word => .ofList [('0', '9'), ('A', 'Z'), ('_', '_'), ('a', 'z')]
  | .xdigit => .ofList [('0', '9'), ('A', 'F'), ('a', 'f')]

def Shorthand.chars : Shorthand → CharSet
  | .digits => NamedSet.digit.chars
  | .blanks => NamedSet.space.chars
  | .words => NamedSet.word.chars

/-- The name of a property as names are compared: without the word `is` at its beginning, without
blanks, hyphens and low lines, in lower case and in ASCII. -/
def comparedName (name : String) : String :=
  let cs := name.toList
  let isMarked := (cs.take 2).map Char.toLower = ['i', 's']
  let kept := (if isMarked then cs.drop 2 else cs).filter fun c =>
    c.toNat < 0x80 && c ≠ ' ' && c ≠ '_' && c ≠ '-'
  String.ofList (kept.map Char.toLower)

/-- Names that could be those of a general category as well as of a property. -/
def ambiguousNames : List String := ["cf", "sc", "lc"]

def propertyProblem (modes : Modes) (name : String) : Problem :=
  let hasValue := name.contains '=' || name.contains ':'
  if !modes.unicode then .notUnicode
  else if !hasValue && ambiguousNames.contains (comparedName name) then .propertyValueUnknown
  else .propertyUnknown

def Shorthand.charsIn (modes : Modes) (span : Span) (isNegated : Bool) (shorthand : Shorthand) :
    Except Fault CharSet :=
  if modes.unicode then refuse .shorthandUnknown span
  else if isNegated then refuse .invalidUtf8 span
  else .ok shorthand.chars

/-- A character that has to be ASCII, unless characters beyond it count. -/
def Literal.charIn (modes : Modes) (literal : Literal) : Except Fault Char :=
  if modes.unicode || literal.char.toNat < 0x80 then .ok literal.char
  else if literal.isByte then refuse .invalidUtf8 literal.span
  else refuse .notUnicode literal.span

/-- Whether a set has characters of its own, whose cases are not settled yet. -/
def SetExpression.isBare : SetExpression → Bool
  | .literal _ | .range _ _ _ => true
  | .members _ sets => sets.any fun set =>
    match set with
    | .literal _ | .range _ _ _ => true
    | _ => false
  | _ => false

/-- The characters of a set with their other cases, where that is the mode. Beyond ASCII they are
not known, so there a set may have no characters of its own. -/
def foldIn (modes : Modes) (span : Span) (isBare : Bool) (set : CharSet) :
    Except Fault CharSet :=
  if !modes.caseless then .ok set
  else if !modes.unicode then .ok set.inEitherCase
  else if isBare then refuse .caseUnknown span
  else .ok set

def negateIn (modes : Modes) (span : Span) (isNegated : Bool) (set : CharSet) :
    Except Fault CharSet :=
  if !isNegated then .ok set
  else if modes.unicode then .ok set.complement
  else refuse .invalidUtf8 span

/-- Two sets joined. -/
def Operation.apply : Operation → CharSet → CharSet → CharSet
  | .intersection => .intersection
  | .difference => .difference
  | .symmetricDifference => .symmetricDifference

mutual

def SetExpression.charsIn (modes : Modes) : SetExpression → Except Fault CharSet
  | .nothing _ => .ok .empty
  | .literal l => (l.charIn modes).map CharSet.only
  | .range _ first last =>
    (first.charIn modes).bind fun a => (last.charIn modes).map fun b => .range a b
  | .named span isNegated set =>
    (foldIn modes span true set.chars).bind (negateIn modes span isNegated)
  | .shorthand span isNegated s => s.charsIn modes span isNegated
  | .property span name => refuse (propertyProblem modes name) span
  | .brackets span isNegated content =>
    ((content.charsIn modes).bind (foldIn modes span content.isBare)).bind
      (negateIn modes span isNegated)
  | .members _ sets => SetExpression.unionIn modes sets
  | .joined _ operation a b =>
    (a.charsIn modes).bind fun first =>
      (b.charsIn modes).bind fun second =>
        -- the second set is folded first, so its fault is the one that is told
        (foldIn modes b.span b.isBare second).bind fun second =>
          (foldIn modes a.span a.isBare first).map fun first => operation.apply first second

/-- The characters of some sets together. -/
def SetExpression.unionIn (modes : Modes) : List SetExpression → Except Fault CharSet
  | [] => .ok .empty
  | set :: sets =>
    (set.charsIn modes).bind fun first =>
      (SetExpression.unionIn modes sets).map fun others => first.union others

end

/-! ## Expressions -/

/-- The meaning of an expression: its pattern, and whether it asks for edges of words in the sense
of Unicode, which the pattern cannot say. -/
structure Meaning where
  pattern : Pattern
  isWide : Bool
deriving DecidableEq, Repr

namespace Meaning

def ofPattern (pattern : Pattern) : Meaning := ⟨pattern, false⟩

def combine (build : List Pattern → Pattern) (parts : List Meaning) : Meaning :=
  ⟨build (parts.map (·.pattern)), parts.any (·.isWide)⟩

def times (a : Meaning) (least : Nat) (most : Option Nat) : Meaning :=
  ⟨a.pattern.times least most, a.isWide && most ≠ some 0⟩

end Meaning

def Edge.meaning (modes : Modes) (edge : Edge) : Meaning :=
  let ofWord (assertion : Assertion) : Meaning := ⟨.assertion assertion, modes.unicode⟩
  let ofLine (text line carriage : Assertion) : Meaning :=
    .ofPattern <| .assertion <|
      if !modes.multiLine then text else if modes.carriage then carriage else line
  match edge with
  | .lineStart => ofLine .textStart .lineStart .carriageStart
  | .lineEnd => ofLine .textEnd .lineEnd .carriageEnd
  | .textStart => .ofPattern (.assertion .textStart)
  | .textEnd => .ofPattern (.assertion .textEnd)
  | .word => ofWord .word
  | .noWord => ofWord .noWord
  | .wordStart => ofWord .wordStart
  | .wordEnd => ofWord .wordEnd
  | .wordStartHalf => ofWord .wordStartHalf
  | .wordEndHalf => ofWord .wordEndHalf

def dotChars (modes : Modes) : CharSet :=
  if modes.dotAll then CharSet.empty.complement
  else if modes.carriage then (CharSet.ofList [('\n', '\n'), ('\r', '\r')]).complement
  else (CharSet.only '\n').complement

def Literal.charsIn (modes : Modes) (literal : Literal) : Except Fault CharSet :=
  if !modes.unicode && literal.isByte && 0x80 ≤ literal.char.toNat then
    refuse .invalidUtf8 literal.span
  else foldIn modes literal.span true (.only literal.char)

def Atom.meaning? (modes : Modes) : Atom → Except Fault Meaning
  | .literal l => (l.charsIn modes).map fun set => .ofPattern (.char set)
  | .dot span =>
    if modes.unicode then .ok (.ofPattern (.char (dotChars modes)))
    else refuse .invalidUtf8 span
  | .edge _ e => .ok (e.meaning modes)
  | .shorthand span isNegated s =>
    (s.charsIn modes span isNegated).map fun set => .ofPattern (.char set)
  | .property span name => refuse (propertyProblem modes name) span

mutual

/-- The meaning of an expression, and the modes that hold behind it. Changes of modes last to the
end of the group that they stand in. -/
def Expression.meaning? (modes : Modes) : Expression → Except Fault (Meaning × Modes)
  | .empty _ => .ok (.ofPattern .empty, modes)
  | .modes _ changes => .ok (.ofPattern .empty, modes.change changes)
  | .atom a => (a.meaning? modes).map (·, modes)
  | .set s => (s.charsIn modes).map fun set => (.ofPattern (.char set), modes)
  | .repeated _ a least most =>
    (a.meaning? modes).map fun (meaning, modes) => (meaning.times least most, modes)
  | .group _ captures changes a =>
    -- what the group changes ends with it
    (a.meaning? (modes.change changes)).map fun (meaning, _) =>
      (if captures then { meaning with pattern := .captured meaning.pattern } else meaning, modes)
  | .sequence _ parts =>
    (Expression.meanings? modes parts).map fun (meanings, modes) =>
      (.combine inOrder meanings, modes)
  | .either _ branches =>
    (Expression.meanings? modes branches).map fun (meanings, modes) =>
      (.combine anyOf meanings, modes)

/-- The meanings of expressions one after the other, and the modes that hold behind the last. -/
def Expression.meanings? (modes : Modes) :
    List Expression → Except Fault (List Meaning × Modes)
  | [] => .ok ([], modes)
  | a :: rest =>
    (a.meaning? modes).bind fun (meaning, modes) =>
      (Expression.meanings? modes rest).map fun (meanings, modes) =>
        (meaning :: meanings, modes)

end

end Bootstrapper.Pattern
