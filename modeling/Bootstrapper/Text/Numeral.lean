/-!
# Numerals

Numbers of 32 bits as people write them on a command line: ASCII digits, with any number of
leading zeros and no blanks, a sign where the reading allows one, and a value in range.
-/

namespace Bootstrapper.Numeral

/-- The value of a digit in a base of at most sixteen; letters count in either case. -/
def digit? (base : Nat) (c : Char) : Option Nat :=
  let n := c.toNat
  let value :=
    if 0x30 ≤ n ∧ n ≤ 0x39 then n - 0x30
    else if 0x61 ≤ n ∧ n ≤ 0x66 then n - 0x61 + 10
    else if 0x41 ≤ n ∧ n ≤ 0x46 then n - 0x41 + 10
    else 16
  if value < base then some value else none

def extend (base value : Nat) (c : Char) : Option Nat :=
  (digit? base c).map (value * base + ·)

def natural? (base : Nat) : List Char → Option Nat
  | [] => none
  | c :: cs => (c :: cs).foldlM (extend base) 0

def unsigned : List Char → List Char
  | '+' :: cs => cs
  | cs => cs

/-- An unsigned number of 32 bits in the given base, with an optional plus sign. -/
def word? (base : Nat) (cs : List Char) : Option UInt32 :=
  (natural? base (unsigned cs)).bind fun n => if n < (1 <<< 32) then some (UInt32.ofNat n) else none

def int32? (cs : List Char) : Option Int32 :=
  let value : Option Int :=
    match cs with
    | '-' :: digits => (natural? 10 digits).map fun n => -(n : Int)
    | _ => (natural? 10 (unsigned cs)).map fun n => (n : Int)
  value.bind fun v => if -0x80000000 ≤ v ∧ v < 0x80000000 then some (Int32.ofInt v) else none

/-- A status (`parse_status`): `0x` and the bits as a hexadecimal number, or a signed decimal
number. -/
def status? : List Char → Option Int32
  | '0' :: 'x' :: digits => (word? 16 digits).map UInt32.toInt32
  | cs => int32? cs

end Bootstrapper.Numeral
