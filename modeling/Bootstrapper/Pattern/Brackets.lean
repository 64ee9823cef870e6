import Bootstrapper.Pattern.Escape

/-!
# Sets in brackets

Characters, ranges, escapes, sets by name and further sets in brackets, joined by the operations on
sets; an operation takes all that stands before it. Hyphens that come first and a closing bracket
that comes first stand for themselves.
-/

namespace Bootstrapper.Pattern

open Reading

/-- The members of a set that have been read, from the last on. -/
structure Members where
  span : Span
  sets : List SetExpression
deriving Repr

namespace Members

def add (members : Members) (set : SetExpression) : Members :=
  let first := if members.sets.isEmpty then set.span.first else members.span.first
  ⟨⟨first, set.span.behind⟩, set :: members.sets⟩

def expression (members : Members) : SetExpression :=
  match members.sets with
  | [] => .nothing members.span
  | [set] => set
  | sets => .members members.span sets.reverse

end Members

/-- A set whose closing bracket has not been read: what opened it, the operation that waits for its
second set, and the members since then. -/
structure OpenSet where
  opening : Span
  isNegated : Bool
  waiting : Option (Operation × SetExpression)
  members : Members
deriving Repr

namespace OpenSet

def add (level : OpenSet) (set : SetExpression) : OpenSet :=
  { level with members := level.members.add set }

def content (level : OpenSet) : SetExpression :=
  let last := level.members.expression
  match level.waiting with
  | none => last
  | some (operation, set) =>
    .joined ⟨set.span.first, last.span.behind⟩ operation set last

def join (level : OpenSet) (operation : Operation) (place : Nat) : OpenSet :=
  { level with waiting := some (operation, level.content), members := ⟨⟨place, place⟩, []⟩ }

def close (level : OpenSet) (behind : Nat) : SetExpression :=
  .brackets ⟨level.opening.first, behind⟩ level.isNegated level.content

end OpenSet

def memberAt (place : Nat) (c : Char) : SetExpression :=
  .literal ⟨⟨place, place + 1⟩, c, false⟩

def readHyphens (start : Nat) : Nat → Members → Reading Members
  | 0, members => return members
  | fuel + 1, members => do
    if (← rest).head? ≠ some '-' then return members
    let member := memberAt (← here) '-'
    next
    if (← rest).isEmpty then fail .setUnclosed start start
    readHyphens start fuel (members.add member)

def openSet : Reading OpenSet := do
  let start ← here
  next
  if (← rest).isEmpty then fail .setUnclosed start (← here)
  let isNegated := (← rest).head? = some '^'
  if isNegated then
    next
    if (← rest).isEmpty then fail .setUnclosed start (← here)
  let first ← here
  let mut members ← readHyphens start (← bound) ⟨⟨first, first⟩, []⟩
  -- a bracket that comes first stands for itself
  if members.sets.isEmpty && (← rest).head? = some ']' then
    members := members.add (memberAt first ']')
    next
    if (← rest).isEmpty then fail .setUnclosed start (← here)
  return ⟨⟨start, ← here⟩, isNegated, none, members⟩

def readMember : Reading Atom := do
  match ← rest with
  | '\\' :: _ => readEscape
  | c :: _ => do
    let place ← here
    advance 1
    return .literal ⟨⟨place, place + 1⟩, c, false⟩
  | [] => failHere .setUnclosed

def Atom.member : Atom → Reading SetExpression
  | .literal l => return .literal l
  | .shorthand span isNegated s => return .shorthand span isNegated s
  | .property span name => return .property span name
  | .dot span | .edge span _ => fail .setEscape span.first span.behind

def Atom.bound : Atom → Reading Literal
  | .literal l => return l
  | atom => fail .setBound atom.span.first atom.span.behind

/-- Reads a member: a range if a hyphen follows that does not come last and does not belong to an
operation. -/
def readRange (opening : Span) : Reading SetExpression := do
  let a ← readMember
  skipBlanks
  if (← rest).isEmpty then fail .setUnclosed opening.first opening.behind
  let second ← second?
  if (← rest).head? ≠ some '-' || second = some ']' || second = some '-' then a.member
  else
    next
    if (← rest).isEmpty then fail .setUnclosed opening.first opening.behind
    let b ← readMember
    let span : Span := ⟨a.span.first, b.span.behind⟩
    let first ← a.bound
    let last ← b.bound
    if last.char < first.char then fail .setReversed span.first span.behind
    return .range span first last

/-- A set by its name at the beginning, with the number of its characters. -/
def namedSetAt? (cs : List Char) : Option (Bool × NamedSet × Nat) :=
  match cs with
  | '[' :: ':' :: body =>
    let isNegated := body.head? = some '^'
    let body := if isNegated then body.drop 1 else body
    let name := body.takeWhile (· ≠ ':')
    match body.drop name.length with
    | ':' :: ']' :: _ =>
      -- the brackets and colons count, and the caret if there is one
      (namedSet? (String.ofList name)).map fun set =>
        (isNegated, set, name.length + if isNegated then 5 else 4)
    | _ => none
  | _ => none

def operationAt? (cs : List Char) : Option Operation :=
  match cs with
  | '&' :: '&' :: _ => some .intersection
  | '-' :: '-' :: _ => some .difference
  | '~' :: '~' :: _ => some .symmetricDifference
  | _ => none

/-- Reads what follows in a set and in the sets around it, up to the last closing bracket. `fuel`
bounds the parts. -/
def readMembers : Nat → OpenSet → List OpenSet → Reading SetExpression
  | 0, level, _ => fail .setUnclosed level.opening.first level.opening.behind
  | fuel + 1, level, outer => do
    skipBlanks
    let place ← here
    let cs ← rest
    if let some operation := operationAt? cs then
      advance 2
      readMembers fuel (level.join operation (← here)) outer
    else if let some (isNegated, set, count) := namedSetAt? cs then
      advance count
      readMembers fuel (level.add (.named ⟨place, ← here⟩ isNegated set)) outer
    else
      match cs with
      | [] => fail .setUnclosed level.opening.first level.opening.behind
      | '[' :: _ => do
        let inner ← openSet
        readMembers fuel inner (level :: outer)
      | ']' :: _ => do
        advance 1
        let set := level.close (← here)
        match outer with
        | [] => return set
        | level :: outer => readMembers fuel (level.add set) outer
      | _ => do
        let set ← readRange level.opening
        readMembers fuel (level.add set) outer

def readSet : Reading SetExpression := do
  let level ← openSet
  readMembers (← bound) level []

end Bootstrapper.Pattern
