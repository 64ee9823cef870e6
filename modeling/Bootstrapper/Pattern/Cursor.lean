import Bootstrapper.Pattern.Fault
import Bootstrapper.Text.Blank

/-!
# Reading a pattern

A reading goes through the characters of a pattern from the left and stops at the first fault.
Where blanks are left out, comments are too: they begin with a number sign and end with the line.
-/

namespace Bootstrapper.Pattern

/-- How far a pattern is read: what is left, how many characters stand before it, how many there are
in all, whether blanks are left out, and the names of the groups so far. -/
structure Cursor where
  rest : List Char
  place : Nat
  size : Nat
  isSpaced : Bool
  names : List (String × Span)
deriving DecidableEq, Repr

abbrev Reading := StateT Cursor (Except Fault)

def blankCount (isComment : Bool) : List Char → Nat
  | [] => 0
  | c :: cs =>
    if isComment then blankCount (c ≠ '\n') cs + 1
    else if c = '#' then blankCount true cs + 1
    else if isBlank c then blankCount false cs + 1
    else 0

/-- The first character that is neither a blank nor the first number sign. -/
def firstShown? (isMarked : Bool) : List Char → Option Char
  | [] => none
  | c :: cs =>
    if isBlank c then firstShown? isMarked cs
    else if c = '#' && !isMarked then firstShown? true cs
    else some c

namespace Reading

def here : Reading Nat := return (← get).place

def rest : Reading (List Char) := return (← get).rest

/-- A number of steps that is enough for any part, since each reads a character or is the last. -/
def bound : Reading Nat := return (← get).size + 1

def fail {α : Type} (problem : Problem) (first behind : Nat) : Reading α :=
  throw ⟨problem, ⟨first, behind⟩, none⟩

def failNext {α : Type} (problem : Problem) : Reading α := do
  fail problem (← here) ((← here) + 1)

def failHere {α : Type} (problem : Problem) : Reading α := do
  fail problem (← here) (← here)

def advance (count : Nat) : Reading Unit :=
  modify fun cursor =>
    { cursor with rest := cursor.rest.drop count, place := cursor.place + count }

def skipBlanks : Reading Unit := do
  let cursor ← get
  if cursor.isSpaced then advance (blankCount false cursor.rest)

def next : Reading Unit := do
  advance 1
  skipBlanks

/-- The character behind the next one, seen past blanks where they are left out. -/
def second? : Reading (Option Char) := do
  let cursor ← get
  let cs := cursor.rest.drop 1
  return if cursor.isSpaced then (firstShown? false cs).or cs.head? else cs.head?

/-- Goes on behind a text if it stands here, and answers whether it does. -/
def take? (text : String) : Reading Bool := do
  if text.toList.isPrefixOf (← rest) then
    advance text.length
    return true
  else return false

end Reading

end Bootstrapper.Pattern
