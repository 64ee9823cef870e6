import Bootstrapper.Pattern.Brackets
import Bootstrapper.Text.Letters

/-!
# Reading expressions

Alternatives between bars, repetition marks behind what they repeat, groups in parentheses with
modes or a name at their beginning. Groups that are not closed yet are kept in a stack, so a pattern
is read in one pass from left to right.
-/

namespace Bootstrapper.Pattern

open Reading

/-- The alternatives of a group, or of the whole pattern, as far as they have been read: the places
where the first and the latest begin, those before the latest and the parts of the latest, both from
the last on. -/
structure Level where
  start : Nat
  first : Nat
  branches : List Expression
  parts : List Expression
deriving Repr

namespace Level

def startingAt (place : Nat) : Level := ⟨place, place, [], []⟩

def add (level : Level) (part : Expression) : Level :=
  { level with parts := part :: level.parts }

def latest (level : Level) (behind : Nat) : Expression :=
  match level.parts with
  | [] => .empty ⟨level.first, behind⟩
  | [part] => part
  | parts => .sequence ⟨level.first, behind⟩ parts.reverse

/-- Ends the latest alternative before a place and begins the next one behind the bar. -/
def branch (level : Level) (behind : Nat) : Level :=
  ⟨level.start, behind + 1, level.latest behind :: level.branches, []⟩

def expression (level : Level) (behind : Nat) : Expression :=
  match level.branches with
  | [] => level.latest behind
  | branches => .either ⟨level.start, behind⟩ (level.latest behind :: branches).reverse

end Level

structure Opening where
  span : Span
  captures : Bool
  changes : List Change
  wasSpaced : Bool
deriving DecidableEq, Repr

/-- What a parenthesis begins: a group, or a change of modes for what follows. -/
inductive Beginning
  | group (opening : Opening)
  | modes (span : Span) (changes : List Change)
deriving DecidableEq, Repr

/-! ## The beginning of a group -/

def isNameChar (isFirst : Bool) (c : Char) : Bool :=
  c = '_' || if isFirst then Text.isAlphabetic c
    else c = '.' || c = '[' || c = ']' || Text.isAlphanumeric c

/-- Reads the characters of a group's name, up to the bracket that ends it or to the end. -/
def readNameChars : Nat → List Char → Reading (List Char)
  | 0, read => return read.reverse
  | fuel + 1, read => do
    match ← rest with
    | [] => return read.reverse
    | c :: _ =>
      if c = '>' then return read.reverse
      else if isNameChar read.isEmpty c then
        advance 1
        readNameChars fuel (c :: read)
      else failNext .nameInvalid

def readName : Reading Unit := do
  let start ← here
  let name := String.ofList (← readNameChars (← bound) [])
  let span : Span := ⟨start, ← here⟩
  if (← rest).isEmpty then failHere .nameUnclosed
  advance 1
  if name.isEmpty then fail .nameEmpty start start
  let cursor ← get
  if let some earlier := cursor.names.lookup name then
    throw ⟨.nameRepeated, span, some earlier⟩
  set { cursor with names := (name, span) :: cursor.names }

/-- Letters of modes with their places; a hyphen is none. -/
abbrev ModeMarks := List (Nat × Option Mode)

/-- Reads letters of modes up to the colon or the parenthesis that ends them. `marks` are those
before, in order. -/
def readMarks : Nat → ModeMarks → Reading ModeMarks
  | 0, marks => return marks
  | fuel + 1, marks => do
    let place ← here
    match ← rest with
    | [] => failHere .modeUnfinished
    | c :: _ =>
      if c = ':' || c = ')' then return marks
      let mark ←
        if c = '-' then pure none
        else
          match mode? c with
          | some mode => pure (some mode)
          | none => failNext .modeUnknown
      if let some (earlier, _) := marks.find? (·.2 = mark) then
        let problem := if mark.isNone then Problem.negationRepeated else .modeRepeated
        throw ⟨problem, ⟨place, place + 1⟩, some ⟨earlier, earlier + 1⟩⟩
      advance 1
      readMarks fuel (marks ++ [(place, mark)])

/-- The changes that letters of modes ask for: those behind a hyphen are switched off. -/
def changesOf (isOn : Bool) : ModeMarks → List Change
  | [] => []
  | (_, none) :: marks => changesOf false marks
  | (_, some mode) :: marks => ⟨mode, isOn⟩ :: changesOf isOn marks

def readChanges : Reading (List Change) := do
  let marks ← readMarks (← bound) []
  if let some (place, none) := marks.getLast? then
    fail .modeDangling place (place + 1)
  return changesOf true marks

def lookArounds : List String := ["?=", "?!", "?<=", "?<!"]

def readBeginning : Reading Beginning := do
  let start ← here
  let span : Span := ⟨start, start + 1⟩
  let wasSpaced := (← get).isSpaced
  next
  let inner ← here
  if let some text := lookArounds.find? (·.toList.isPrefixOf (← rest)) then
    fail .lookAround start (inner + text.length)
  if (← take? "?P<") || (← take? "?<") then
    readName
    return .group ⟨span, true, [], wasSpaced⟩
  if !(← take? "?") then return .group ⟨span, true, [], wasSpaced⟩
  if (← rest).isEmpty then fail .groupUnclosed span.first span.behind
  let changes ← readChanges
  let isGroup := (← rest).head? = some ':'
  advance 1
  if isGroup then return .group ⟨span, false, changes, wasSpaced⟩
  -- the question mark then repeats nothing
  if changes.isEmpty then fail .nothingRepeated inner inner
  return .modes ⟨start, ← here⟩ changes

def applySpacing (changes : List Change) : Reading Unit :=
  modify fun cursor =>
    { cursor with isSpaced := (stateOf? .spaced changes).getD cursor.isSpaced }

/-! ## Repetition -/

def skipAllBlanks (skip : Reading Unit) : Nat → Reading Unit
  | 0 => return
  | fuel + 1 => do
    if (← rest).head?.any isBlank then
      skip
      skipAllBlanks skip fuel

def readDecimals : Nat → List Char → Reading (List Char)
  | 0, read => return read
  | fuel + 1, read => do
    match ← rest with
    | [] => return read
    | c :: _ =>
      if c.isDigit then
        next
        readDecimals fuel (c :: read)
      else return read

/-- Reads a count. What is wrong with it is told only if it is needed. -/
def readCount : Reading (Except Fault Nat) := do
  let fuel ← bound
  skipAllBlanks (advance 1) fuel
  let start ← here
  let digits := (← readDecimals fuel []).reverse
  let span : Span := ⟨start, ← here⟩
  skipAllBlanks next fuel
  match Numeral.natural? 10 digits with
  | none => return .error ⟨.countMissing, span, none⟩
  | some n =>
    return if n < (1 <<< 32) then .ok n else .error ⟨.numberInvalid, span, none⟩

def readCounts : Reading (Nat × Option Nat) := do
  let start ← here
  next
  if (← rest).isEmpty then fail .countUnclosed start (← here)
  let least ← readCount
  let counts ←
    match ← rest with
    | [] => fail .countUnclosed start (← here)
    | ',' :: _ => do
      next
      match ← rest with
      | [] => fail .countUnclosed start (← here)
      -- the fault of a count comes out behind that of a missing brace
      | '\x7d' :: _ => pure ((← liftExcept least), none)
      | _ => do
        let least ← liftExcept least
        let most ← liftExcept (← readCount)
        pure (least, some most)
    | _ => do
      let least ← liftExcept least
      pure (least, some least)
  if (← rest).head? ≠ some '\x7d' then fail .countUnclosed start (← here)
  next
  if (← rest).head? = some '?' then advance 1
  if counts.2.any (· < counts.1) then fail .countReversed start (← here)
  return counts
where
  liftExcept {α : Type} : Except Fault α → Reading α
    | .ok a => return a
    | .error fault => throw fault

/-- Reads a repetition mark of one character, with the mark that asks for the least match first. -/
def readMark (least : Nat) (most : Option Nat) : Reading (Nat × Option Nat) := do
  advance 1
  if (← rest).head? = some '?' then advance 1
  return (least, most)

/-- Repeats the last part as often as a reading says. There has to be one that matches something. -/
def Level.repeatLast (level : Level) (read : Reading (Nat × Option Nat)) : Reading Level := do
  match level.parts with
  | [] | .modes _ _ :: _ => failHere .nothingRepeated
  | part :: parts => do
    let (least, most) ← read
    let span : Span := ⟨part.span.first, ← here⟩
    return { level with parts := .repeated span part least most :: parts }

/-! ## Expressions -/

def readAtom : Reading Atom := do
  let place ← here
  let span : Span := ⟨place, place + 1⟩
  match ← rest with
  | '\\' :: _ => readEscape
  | [] => failHere .nothingRepeated
  | c :: _ => do
    advance 1
    match c with
    | '.' => return .dot span
    | '^' => return .edge span .lineStart
    | '$' => return .edge span .lineEnd
    | c => return .literal ⟨span, c, false⟩

/-- Reads what follows on a level and on those around it, up to the end. `fuel` bounds the parts. -/
def readParts : Nat → Level → List (Opening × Level) → Reading Expression
  | 0, level, _ => return level.expression (← here)
  | fuel + 1, level, outer => do
    skipBlanks
    let place ← here
    match ← rest with
    | [] =>
      match outer with
      | [] => return level.expression place
      | (opening, _) :: _ => fail .groupUnclosed opening.span.first opening.span.behind
    | '(' :: _ => do
      match ← readBeginning with
      | .modes span changes =>
        applySpacing changes
        readParts fuel (level.add (.modes span changes)) outer
      | .group opening =>
        applySpacing opening.changes
        readParts fuel (.startingAt (← here)) ((opening, level) :: outer)
    | ')' :: _ =>
      match outer with
      | [] => failNext .groupUnopened
      | (opening, around) :: outer => do
        -- modes that were changed in the group end with it
        modify fun cursor => { cursor with isSpaced := opening.wasSpaced }
        advance 1
        let span : Span := ⟨opening.span.first, place + 1⟩
        let group := Expression.group span opening.captures opening.changes
          (level.expression place)
        readParts fuel (around.add group) outer
    | '|' :: _ => do
      advance 1
      readParts fuel (level.branch place) outer
    | '[' :: _ => do
      let set ← readSet
      readParts fuel (level.add (.set set)) outer
    | '?' :: _ => do readParts fuel (← level.repeatLast (readMark 0 (some 1))) outer
    | '*' :: _ => do readParts fuel (← level.repeatLast (readMark 0 none)) outer
    | '+' :: _ => do readParts fuel (← level.repeatLast (readMark 1 none)) outer
    | '\x7b' :: _ => do readParts fuel (← level.repeatLast readCounts) outer
    | _ => do
      let atom ← readAtom
      readParts fuel (level.add (.atom atom)) outer

def Expression.ofString? (text : String) : Except Fault Expression :=
  let cs := text.toList
  match (readParts (cs.length + 1) (.startingAt 0) []).run ⟨cs, 0, cs.length, false, []⟩ with
  | .error fault => .error fault
  | .ok (expression, _) =>
    match expression.tooDeep? depthLimit with
    | some span => .error ⟨.nestedTooDeep, span, none⟩
    | none => .ok expression

end Bootstrapper.Pattern
