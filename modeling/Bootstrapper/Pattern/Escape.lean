import Bootstrapper.Pattern.Cursor
import Bootstrapper.Pattern.Expression
import Bootstrapper.Text.Numeral

/-!
# Escapes

What a backslash and the characters behind it stand for: a character that would mean something
else, a character by its number, a set of characters or an edge.
-/

namespace Bootstrapper.Pattern

open Reading

def scalar? (n : Nat) : Option Char :=
  if n < 0xD800 ∨ (0xDFFF < n ∧ n ≤ 0x10FFFF) then some (Char.ofNat n) else none

/-- Reads some hexadecimal digits behind those with a value. -/
def readDigits : Nat → Nat → Reading Nat
  | 0, value => return value
  | count + 1, value => do
    match ← rest with
    | [] => failHere .escapeUnfinished
    | c :: _ =>
      match Numeral.digit? 16 c with
      | none => failNext .hexDigit
      | some digit =>
        next
        readDigits count (value * 16 + digit)

/-- Reads what stands in braces, from the opening brace on and up to the closing one or the end.
`read` are the characters so far, from the last on, and `fuel` bounds their number. -/
def readBraced (allows : Char → Bool) : Nat → List Char → Reading (List Char)
  | 0, read => return read.reverse
  | fuel + 1, read => do
    next
    match ← rest with
    | [] => return read.reverse
    | c :: _ =>
      if c = '\x7d' then return read.reverse
      else if allows c then readBraced allows fuel (c :: read)
      else failNext .hexDigit

/-- Reads a character by its number: so many digits, or any number of them in braces. `start` is
the place of the backslash. -/
def readNumber (start width : Nat) : Reading Atom := do
  next
  let first ← here
  match ← rest with
  | [] => failHere .escapeUnfinished
  | '\x7b' :: _ => do
    let digits ← readBraced (fun c => (Numeral.digit? 16 c).isSome) (← bound) []
    if (← rest).isEmpty then fail .escapeUnfinished first (← here)
    let behind ← here
    next
    if digits.isEmpty then fail .hexEmpty first (← here)
    match (Numeral.natural? 16 digits).bind scalar? with
    | none => fail .hexValue (first + 1) behind
    | some char => return .literal ⟨⟨start, ← here⟩, char, false⟩
  | _ => do
    let value ← readDigits width 0
    match scalar? value with
    | none => fail .hexValue first (← here)
    | some char => return .literal ⟨⟨start, ← here⟩, char, width = 2⟩

/-- Reads the name of a property: one character, or any number of them in braces. -/
def readProperty (start : Nat) : Reading Atom := do
  next
  match ← rest with
  | [] => failHere .escapeUnfinished
  | '\x7b' :: _ => do
    let name ← readBraced (fun _ => true) (← bound) []
    if (← rest).isEmpty then failHere .escapeUnfinished
    advance 1
    return .property ⟨start, ← here⟩ (String.ofList name)
  | '\\' :: _ => failNext .propertyInvalid
  | c :: _ => do
    next
    return .property ⟨start, ← here⟩ (String.ofList [c])

/-! ## Edges of words -/

def isEdgeChar (c : Char) : Bool := c.isAlpha || c = '-'

def namedEdge? (name : String) : Option Edge :=
  match name with
  | "start" => some .wordStart
  | "end" => some .wordEnd
  | "start-half" => some .wordStartHalf
  | "end-half" => some .wordEndHalf
  | _ => none

def readEdgeChars : Nat → List Char → Reading (List Char)
  | 0, read => return read.reverse
  | fuel + 1, read => do
    match ← rest with
    | [] => return read.reverse
    | c :: _ =>
      if isEdgeChar c then
        next
        readEdgeChars fuel (c :: read)
      else return read.reverse

/-- Reads the edge that a name in braces makes of that of a word, if there is one: else the brace
says how often the edge is repeated. -/
def readWordEdge (start : Nat) : Reading Edge := do
  let cursor ← get
  if cursor.rest.head? ≠ some '\x7b' then return .word
  next
  match ← rest with
  | [] => fail .edgeUnfinished start (← here)
  | c :: _ =>
    if !isEdgeChar c then
      set cursor
      return .word
    let first ← here
    let name ← readEdgeChars (← bound) []
    if (← rest).head? ≠ some '\x7d' then fail .edgeUnclosed cursor.place (← here)
    match namedEdge? (String.ofList name) with
    | none => fail .edgeUnknown first (← here)
    | some edge =>
      advance 1
      return edge

/-! ## Letters and marks -/

def isMark (c : Char) : Bool :=
  c.toNat < 0x80 && !c.isAlphanum && c ≠ '<' && c ≠ '>'

def control? (c : Char) : Option Char :=
  match c with
  | 'a' => some '\x07'
  | 'f' => some '\x0c'
  | 't' => some '\t'
  | 'n' => some '\n'
  | 'r' => some '\r'
  | 'v' => some '\x0b'
  | _ => none

/-- The set that a letter stands for; in upper case all but its characters. -/
def shorthand? (c : Char) : Option (Bool × Shorthand) :=
  match c with
  | 'd' => some (false, .digits)
  | 'D' => some (true, .digits)
  | 's' => some (false, .blanks)
  | 'S' => some (true, .blanks)
  | 'w' => some (false, .words)
  | 'W' => some (true, .words)
  | _ => none

def edge? (c : Char) : Option Edge :=
  match c with
  | 'A' => some .textStart
  | 'z' => some .textEnd
  | 'B' => some .noWord
  | '<' => some .wordStart
  | '>' => some .wordEnd
  | _ => none

def numberWidth? (c : Char) : Option Nat :=
  match c with
  | 'x' => some 2
  | 'u' => some 4
  | 'U' => some 8
  | _ => none

def readSimple (start : Nat) (c : Char) : Reading Atom := do
  advance 1
  let span : Span := ⟨start, ← here⟩
  if isMark c then return .literal ⟨span, c, false⟩
  if let some char := control? c then return .literal ⟨span, char, false⟩
  if let some (isNegated, shorthand) := shorthand? c then
    return .shorthand span isNegated shorthand
  if let some edge := edge? c then return .edge span edge
  if c = 'b' then
    let edge ← readWordEdge start
    return .edge ⟨start, ← here⟩ edge
  fail .escapeUnknown start span.behind

def readEscape : Reading Atom := do
  let start ← here
  advance 1
  match ← rest with
  | [] => fail .escapeUnfinished start (← here)
  | c :: _ =>
    if c.isDigit then fail .backReference start ((← here) + 1)
    else if let some width := numberWidth? c then readNumber start width
    else if c = 'p' || c = 'P' then readProperty start
    else readSimple start c

end Bootstrapper.Pattern
