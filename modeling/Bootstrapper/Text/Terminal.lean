import Bootstrapper.Text.Utf8

/-!
# Terminal sequences

A terminal obeys some characters instead of showing them: control characters, and the sequences
that begin with an escape character (colours, titles, device strings). Where nobody obeys them they
are taken out: `plainText` and `plainLine` keep what a terminal would show, and the breaks between
words and lines.

A sequence that is never ended swallows what follows it. Line breaks and tabs show also inside an
escape or a control sequence: a text gives such a sequence up, a line goes on with it at the next
control character.
-/

namespace Bootstrapper.Terminal

/-- Where in a sequence the next character stands. -/
inductive State
  -- in no sequence
  | ground
  -- behind the escape character
  | escape
  -- behind an escape character and characters that announce one more
  | announced
  -- in a control sequence, before the letter that ends it
  | control
  -- at the beginning of a device string
  | deviceStart
  -- in the numbers of a device string
  | deviceNumbers
  -- behind the numbers of a device string
  | deviceMarks
  -- in a device string that is ill-formed
  | deviceIgnored
  -- in the data of a device string, or in a string for nobody
  | data
  -- in a command for the system around the terminal, such as a title
  | command
deriving DecidableEq, Repr

namespace State

/-- Where a printable character of ASCII leads; none if it changes nothing. -/
def afterAscii (state : State) (n : Nat) : Option State :=
  match state with
  | .ground | .deviceIgnored | .data | .command => none
  | .escape =>
    -- the letters [ ] P open a control sequence, a command and a device string, X ^ _ a plain one
    if n < 0x30 then some .announced
    else if n = 0x5B then some .control
    else if n = 0x5D then some .command
    else if n = 0x50 then some .deviceStart
    else if n = 0x58 ∨ n = 0x5E ∨ n = 0x5F then some .data
    else some .ground
  | .announced => if n < 0x30 then none else some .ground
  | .control => if n < 0x40 then none else some .ground
  | .deviceStart =>
    if n < 0x30 then some .deviceMarks else if n < 0x40 then some .deviceNumbers else some .data
  | .deviceNumbers =>
    if n < 0x30 then some .deviceMarks
    else if n < 0x3C then none
    else if n < 0x40 then some .deviceIgnored
    else some .data
  | .deviceMarks =>
    if n < 0x30 then none else if n < 0x40 then some .deviceIgnored else some .data

def stringEnd : UInt8 := 0x9C

def after? (state : State) (c : Char) : Option State :=
  if c = '\x1b' then some .escape
  -- these two break off any sequence
  else if c = '\x18' ∨ c = '\x1a' then some .ground
  else if c = '\x07' then if state = .command then some .ground else none
  else if 0x80 ≤ c.toNat then
    -- strings are read byte by byte: a character ends one if one of its bytes would
    if state = .data ∧ (String.utf8EncodeChar c).contains stringEnd then some .ground else none
  else if 0x20 ≤ c.toNat ∧ c.toNat < 0x7F then state.afterAscii c.toNat
  else none

def showsBreaks : State → Bool
  | .ground | .escape | .announced | .control => true
  | _ => false

def isBreak (c : Char) : Bool :=
  c = '\t' || c = '\n' || c = '\x0c' || c = '\r'

def shows (state : State) (c : Char) : Bool :=
  (state.showsBreaks && isBreak c) || (state = .ground && 0x20 ≤ c.toNat && c.toNat ≠ 0x7F)

end State

/-- A reader between two characters. `held` is the sequence that a line break or a tab has
interrupted. -/
structure Reader where
  state : State
  held : State
deriving DecidableEq, Repr

namespace Reader

def start : Reader := ⟨.ground, .ground⟩

/-- The reader behind a character. With `holds` an interrupted sequence is gone on with. -/
def step (holds : Bool) (reader : Reader) (c : Char) : Reader :=
  if reader.state.shows c then
    if reader.state = .ground then
      -- behind other characters than ASCII an interrupted sequence is forgotten
      if c.toNat < 0x80 then reader else start
    else ⟨.ground, if holds then reader.state else .ground⟩
  else if reader.state = .ground then
    match State.ground.after? c with
    | some state => ⟨state, .ground⟩
    -- a control character that opens nothing belongs to the interrupted sequence
    | none => ⟨(reader.held.after? c).getD reader.held, .ground⟩
  else ⟨(reader.state.after? c).getD reader.state, .ground⟩

def shown (holds : Bool) (reader : Reader) : List Char → List Char
  | [] => []
  | c :: cs =>
    let rest := shown holds (reader.step holds c) cs
    if reader.state.shows c then c :: rest else rest

end Reader

def plainText (text : String) : String :=
  String.ofList (Reader.start.shown false text.toList)

def plainLine (text : String) : String :=
  String.ofList (Reader.start.shown true text.toList)

example : plainText "a\x1b[1;31mb\x1b[0m" = "ab" := by decide +kernel

example : plainText "\x1b]0;title\x07z" = "z" := by decide +kernel

end Bootstrapper.Terminal
