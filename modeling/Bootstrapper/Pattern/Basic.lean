import Bootstrapper.Text.CharSet

/-!
# Patterns

Regular patterns over characters: what is left of a written pattern when its modes are settled.
-/

namespace Bootstrapper

namespace Pattern

structure Place where
  before : Option Char
  after : Option Char
deriving DecidableEq, Repr

/-- What a pattern can say about a place without taking a character. Words are made of ASCII
characters here. -/
inductive Assertion
  | textStart
  | textEnd
  | lineStart
  | lineEnd
  | carriageStart
  | carriageEnd
  | word
  | noWord
  | wordStart
  | wordEnd
  | wordStartHalf
  | wordEndHalf
deriving DecidableEq, Repr

def isWordChar (c : Char) : Bool := c.isAlphanum || c = '_'

namespace Assertion

/-- Whether an assertion is true of a place. Between a carriage return and a line feed no line
begins or ends. -/
def isTrueOf (place : Place) : Assertion → Bool
  | .textStart => place.before.isNone
  | .textEnd => place.after.isNone
  | .lineStart => place.before.all (· = '\n')
  | .lineEnd => place.after.all (· = '\n')
  | .carriageStart =>
    place.before.all fun c => c = '\n' || (c = '\r' && place.after ≠ some '\n')
  | .carriageEnd =>
    place.after.all fun c => c = '\r' || (c = '\n' && place.before ≠ some '\r')
  | .word => place.before.any isWordChar != place.after.any isWordChar
  | .noWord => place.before.any isWordChar == place.after.any isWordChar
  | .wordStart => !place.before.any isWordChar && place.after.any isWordChar
  | .wordEnd => place.before.any isWordChar && !place.after.any isWordChar
  | .wordStartHalf => !place.before.any isWordChar
  | .wordEndHalf => !place.after.any isWordChar

end Assertion

end Pattern

open Pattern in
/-- A regular pattern. A captured part matches what it matches without being captured. -/
inductive Pattern
  | empty
  | char (set : CharSet)
  | assertion (assertion : Assertion)
  | sequence (a b : Pattern)
  | either (a b : Pattern)
  | repeated (a : Pattern) (least : Nat) (most : Option Nat)
  | captured (a : Pattern)
deriving DecidableEq, Repr

namespace Pattern

def takesNone : Pattern → Bool
  | .empty | .assertion _ => true
  | .char _ => false
  | .sequence a b | .either a b => a.takesNone && b.takesNone
  | .repeated a _ most => a.takesNone || most = some 0
  | .captured a => a.takesNone

/-- Whether a pattern takes at least one character, whatever it matches. -/
def takesSome : Pattern → Bool
  | .empty | .assertion _ => false
  | .char _ => true
  | .sequence a b => a.takesSome || b.takesSome
  | .either a b => a.takesSome && b.takesSome
  | .repeated a least _ => a.takesSome && 0 < least
  | .captured a => a.takesSome

/-- A pattern repeated. What takes no characters is as good once as many times, and what is
repeated no times is not there. -/
def times (a : Pattern) (least : Nat) (most : Option Nat) : Pattern :=
  let bounds :=
    if a.takesNone then (min least 1, some (min (most.getD 1) 1)) else (least, most)
  if bounds.2 = some 0 then .empty
  else if bounds = (1, some 1) then a
  else .repeated a bounds.1 bounds.2

def inOrder : List Pattern → Pattern
  | [] => .empty
  | [a] => a
  | a :: rest =>
    match a, inOrder rest with
    | .empty, b => b
    | a, .empty => a
    | a, b => .sequence a b

def set? : Pattern → Option CharSet
  | .char set => some set
  | _ => none

/-- Patterns as alternatives. Where each takes one character they are one set. -/
def anyOf (branches : List Pattern) : Pattern :=
  match branches.mapM set? with
  | some sets => .char (sets.foldl CharSet.union .empty)
  | none =>
    match branches.reverse with
    | [] => .char .empty
    | last :: rest => rest.foldl (fun all a => .either a all) last

end Pattern

end Bootstrapper
