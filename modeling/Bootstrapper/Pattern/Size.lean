import Bootstrapper.Pattern.Basic

/-!
# The size of patterns

A pattern is searched for by a machine that reads bytes, and the memory of such a machine is
limited. Its size is that of the pattern written out: every state has a base size, and each way out
of a state that has several adds to it. Two machines are made, one for each direction; captures
count forwards only. Alternatives and rounds are the same for both, but sets beyond ASCII are not:
forwards their byte sequences share what they end with, backwards what they begin with.
-/

namespace Bootstrapper.Pattern

inductive Direction
  | forwards
  | backwards
deriving DecidableEq, Repr

def stateSize : Nat := 32

def branchSize : Nat := 4

def rangeSize : Nat := 8

/-! ## Sets as sequences of bytes -/

abbrev ByteRange := Nat × Nat

/-- The sequences that write the numbers from one to another with a lead and so many bytes of six
bits behind it. What goes on with all values of the bytes behind is one sequence. -/
def sequencesFrom (mark : Nat) : Nat → Nat → Nat → List (List ByteRange)
  | 0, first, last => [[(mark + first, mark + last)]]
  | count + 1, first, last =>
    let unit := 1 <<< (6 * (count + 1))
    let low := first / unit
    let high := last / unit
    let lead (a b : Nat) : List (List ByteRange) → List (List ByteRange) :=
      List.map ((mark + a, mark + b) :: ·)
    if low = high then lead low low (sequencesFrom 0x80 count (first % unit) (last % unit))
    else
      -- the first and the last lead stand alone where not all values follow them
      let opensLate := first % unit ≠ 0
      let closesEarly := last % unit ≠ unit - 1
      let start := if opensLate then low + 1 else low
      let behind := if closesEarly then high else high + 1
      (if opensLate then lead low low (sequencesFrom 0x80 count (first % unit) (unit - 1))
        else [])
      ++ (if start < behind then
          lead start (behind - 1) (sequencesFrom 0x80 count 0 (unit - 1)) else [])
      ++ (if closesEarly then lead high high (sequencesFrom 0x80 count 0 (last % unit)) else [])

/-- The ranges of code points whose characters have one length, with the mark of their lead and the
number of bytes behind it. -/
def lengths : List (Nat × Nat × Nat × Nat) :=
  [(0, 0x7F, 0, 0), (0x80, 0x7FF, 0xC0, 1), (0x800, 0xD7FF, 0xE0, 2), (0xE000, 0xFFFF, 0xE0, 2),
    (0x10000, 0x10FFFF, 0xF0, 3)]

/-- The sequences of bytes that the characters of a set are written with. -/
def byteSequences (set : CharSet) : List (List ByteRange) :=
  set.ranges.flatMap fun range =>
    lengths.flatMap fun (first, last, mark, count) =>
      if range.1 ≤ last ∧ first ≤ range.2 then
        sequencesFrom mark count (max range.1 first) (min range.2 last)
      else []

def byteCount (n : Nat) : Nat :=
  if n < 0x80 then 1 else if n < 0x800 then 2 else if n < 0x10000 then 3 else 4

def beginnings {α : Type} (sequence : List α) : List (List α) :=
  (List.range sequence.length).map fun n => sequence.take (n + 1)

def endings {α : Type} (sequence : List α) : List (List α) :=
  (List.range (sequence.length - 1)).map fun n => sequence.drop (n + 1)

def setSize (direction : Direction) (set : CharSet) : Nat :=
  match set.single? with
  | some n => stateSize * byteCount n
  | none =>
    if set.isAscii then 2 * stateSize + rangeSize * set.ranges.length
    else
      -- backwards the trailing bytes come first, so the beginnings are what is written out
      let sequences := byteSequences set
      match direction with
      | .backwards =>
        stateSize * (2 + (sequences.flatMap beginnings).eraseDups.length)
          + branchSize * sequences.length
      | .forwards =>
        2 * stateSize + rangeSize * (sequences.map (·.head?)).eraseDups.length
          + (stateSize + rangeSize) * (sequences.flatMap endings).eraseDups.length

/-! ## Patterns -/

/-- The size of a pattern by itself, and as one of several alternatives: alternatives in
alternatives are on one level with them. -/
def sizes (direction : Direction) : Pattern → Nat × Nat
  | .empty | .assertion _ => (stateSize, stateSize + branchSize)
  | .char set =>
    let size := setSize direction set
    (size, size + branchSize)
  | .sequence a b =>
    let size := (sizes direction a).1 + (sizes direction b).1
    (size, size + branchSize)
  | .either a b =>
    let branches := (sizes direction a).2 + (sizes direction b).2
    (2 * stateSize + branches, branches)
  | .captured a =>
    let size := (sizes direction a).1 + if direction = .forwards then 2 * stateSize else 0
    (size, size + branchSize)
  | .repeated a least most =>
    let part := (sizes direction a).1
    let fork := stateSize + 2 * branchSize
    let size :=
      match least, most with
      -- rounds that may take nothing get a fork of their own
      | 0, none => if a.takesSome then fork + part else 2 * fork + stateSize + part
      | n, none => n * part + fork
      | 0, some 1 => fork + part + stateSize
      | n, some m =>
        if n = m then n * part
        else (if n = 0 then stateSize else n * part) + stateSize + (m - n) * (fork + part)
    (size, size + branchSize)

/-- The size of what every machine has: its way to a match and the end of it, and forwards the
capture of the whole. -/
def frameSize (direction : Direction) : Nat :=
  (stateSize + 2 * branchSize) + (2 * stateSize + rangeSize) + stateSize
    + if direction = .forwards then 2 * stateSize else 0

def sizeLimit : Nat := 10485760

def isTooLarge (pattern : Pattern) : Bool :=
  [Direction.forwards, .backwards].any fun direction =>
    sizeLimit < frameSize direction + (sizes direction pattern).1

end Bootstrapper.Pattern
