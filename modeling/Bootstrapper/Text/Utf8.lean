import Bootstrapper.Bytes

/-!
# Text as UTF-8 bytes

`encode` writes a text as bytes. `scan` reads bytes one at a time; its state is what a character
begun but not finished still allows. Bytes that are no character are grouped into the longest
parts that could have begun one, and each such part counts once, so `decodeLossy` writes one
replacement character for it, and `decode?` refuses the whole.

The ranges of a lead byte and of the byte after it exclude overlong forms, surrogates and values
above U+10FFFF, so no later check of the value is needed.
-/

namespace Bootstrapper.Utf8

def encode (text : String) : Bytes :=
  text.toList.flatMap String.utf8EncodeChar

/-- A character that has begun: the bits read, how many bytes follow the next one, and the range
of the next one. -/
structure Pending where
  value : Nat
  more : Nat
  low : UInt8
  high : UInt8
deriving DecidableEq, Repr

/-- What a lead byte announces; none for a byte that cannot begin a longer character. -/
def lead? (b : UInt8) : Option Pending :=
  let n := b.toNat
  if n < 0xC2 then none
  else if n < 0xE0 then some ⟨n - 0xC0, 0, 0x80, 0xBF⟩
  -- 0xE0 and 0xF0 could lead overlong forms, 0xED surrogates, 0xF4 values past the last one
  else if n = 0xE0 then some ⟨0, 1, 0xA0, 0xBF⟩
  else if n = 0xED then some ⟨0xD, 1, 0x80, 0x9F⟩
  else if n < 0xF0 then some ⟨n - 0xE0, 1, 0x80, 0xBF⟩
  else if n = 0xF0 then some ⟨0, 2, 0x90, 0xBF⟩
  else if n < 0xF4 then some ⟨n - 0xF0, 2, 0x80, 0xBF⟩
  else if n = 0xF4 then some ⟨4, 2, 0x80, 0x8F⟩
  else none

/-- Reads a byte where a character may begin. What is complete comes out: `some c` for a
character, `none` for an ill-formed part. -/
def begin (b : UInt8) : List (Option Char) × Option Pending :=
  if b < 0x80 then ([some (Char.ofNat b.toNat)], none)
  else
    match lead? b with
    | some p => ([], some p)
    | none => ([none], none)

/-- Reads one byte. A byte out of range ends the part begun before it and is then read as a
beginning of its own. -/
def step (state : Option Pending) (b : UInt8) : List (Option Char) × Option Pending :=
  match state with
  | none => begin b
  | some p =>
    if p.low ≤ b ∧ b ≤ p.high then
      let value := p.value * 64 + (b.toNat - 0x80)
      match p.more with
      | 0 => ([some (Char.ofNat value)], none)
      | more + 1 => ([], some ⟨value, more, 0x80, 0xBF⟩)
    else
      -- the part before is given up, the byte is not
      (none :: (begin b).1, (begin b).2)

/-- The characters of a byte string, with `none` for each ill-formed part. -/
def scan : Option Pending → Bytes → List (Option Char)
  | none, [] => []
  | some _, [] => [none]
  | state, b :: bs => (step state b).1 ++ scan (step state b).2 bs

/-- The text with U+FFFD for each ill-formed part. -/
def decodeLossy (bs : Bytes) : String :=
  String.ofList ((scan none bs).map (·.getD '\uFFFD'))

/-- The text, if every byte belongs to a character. -/
def decode? (bs : Bytes) : Option String :=
  ((scan none bs).mapM id).map String.ofList

def length (cs : List Char) : Nat :=
  cs.foldr (fun c bytes => c.utf8Size + bytes) 0

end Bootstrapper.Utf8
