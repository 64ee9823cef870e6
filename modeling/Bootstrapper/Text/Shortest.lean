/-!
# Shortest decimals

The decimal with the fewest digits that reads back as a given double, and of those the one nearest
to it; of two equally near the one whose last digit is even. A finite double is `m * 2 ^ q`; the
reals that round to it form an interval around it, with its ends where `m` is even. Grids of one,
two, … seventeen digits are tried in exact arithmetic: on each only the two neighbours of the value
can be nearest.
-/

namespace Bootstrapper.Text

/-- A decimal `digits * 10 ^ exponent`. -/
structure Decimal where
  digits : Nat
  exponent : Int
deriving DecidableEq, Repr

/-- A positive real with the interval of reals that round to it, over one denominator. -/
structure Rounding where
  low : Nat
  value : Nat
  high : Nat
  denominator : Nat
  closed : Bool
deriving Repr

namespace Rounding

/-- The interval of a positive finite double, from its bits without the sign. -/
def ofBits (bits : Nat) : Rounding :=
  let fraction := bits % (1 <<< 52)
  let field := bits >>> 52
  let m := if field = 0 then fraction else fraction + (1 <<< 52)
  let below := if fraction = 0 ∧ 1 < field then 1 else 2
  -- in quarters of the last place, the value is `4 * m * 2 ^ (field - 1077)`
  let place := (if field = 0 then 1 else field)
  let up := 1 <<< (place - 1077)
  ⟨(4 * m - below) * up, 4 * m * up, (4 * m + 2) * up, 1 <<< (1077 - place), m % 2 = 0⟩

def holds (r : Rounding) (d : Decimal) : Bool :=
  let scale := Nat.pow 10 (-d.exponent).toNat
  let n := d.digits * Nat.pow 10 d.exponent.toNat * r.denominator
  if r.closed then r.low * scale ≤ n && n ≤ r.high * scale
  else r.low * scale < n && n < r.high * scale

/-- How far a decimal is from the value, in units that depend only on its exponent. -/
def distance (r : Rounding) (d : Decimal) : Nat :=
  let n := d.digits * Nat.pow 10 d.exponent.toNat * r.denominator
  let v := r.value * Nat.pow 10 (-d.exponent).toNat
  (n - v) + (v - n)

def magnitude (r : Rounding) : Int :=
  let a := (Nat.toDigits 10 r.value).length
  let b := (Nat.toDigits 10 r.denominator).length
  let least : Int := a - b
  if r.denominator * Nat.pow 10 (a - b) ≤ r.value * Nat.pow 10 (b - a) then least + 1 else least

/-- A point of the grid of `count` digits; the point after the last is a power of ten. -/
def gridPoint (count digits : Nat) (exponent : Int) : Decimal :=
  if digits = Nat.pow 10 count then ⟨1, exponent + count⟩ else ⟨digits, exponent⟩

/-- The better neighbour of the value on the grid of `count` digits, if one rounds to it. -/
def onGrid? (r : Rounding) (count : Nat) : Option Decimal :=
  let exponent := r.magnitude - count
  let floor :=
    r.value * Nat.pow 10 (-exponent).toNat / (r.denominator * Nat.pow 10 exponent.toNat)
  let below : Decimal := ⟨floor, exponent⟩
  let above : Decimal := ⟨floor + 1, exponent⟩
  let upper := gridPoint count (floor + 1) exponent
  match r.holds below, r.holds above with
  | true, true =>
    match compare (r.distance below) (r.distance above) with
    | .lt => some below
    | .gt => some upper
    | .eq => some (if floor % 2 = 0 then below else upper)
  | true, false => some below
  | false, true => some upper
  | false, false => none

end Rounding

/-- The shortest decimal of a positive finite double, given by its bits. -/
def shortest (bits : Nat) : Decimal :=
  let r := Rounding.ofBits bits
  ((List.range 17).findSome? fun n => r.onGrid? (n + 1)).getD ⟨0, 0⟩

end Bootstrapper.Text
