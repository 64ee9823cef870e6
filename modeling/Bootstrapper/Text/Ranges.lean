/-!
# Ranges of code points

Properties and sets of characters are lists of ranges of code points. `addRange` puts one more range
into a list in ascending order and joins it with those that it overlaps or touches; `gapsFrom` is
what a list leaves out.
-/

namespace Bootstrapper.Text

def inRanges (ranges : List (Nat × Nat)) (n : Nat) : Bool :=
  ranges.any fun range => range.1 ≤ n && n ≤ range.2

def addRange (first last : Nat) : List (Nat × Nat) → List (Nat × Nat)
  | [] => [(first, last)]
  | range :: ranges =>
    if last + 1 < range.1 then (first, last) :: range :: ranges
    else if range.2 + 1 < first then range :: addRange first last ranges
    else addRange (min first range.1) (max last range.2) ranges

def lastCodePoint : Nat := 0x10FFFF

def gapsFrom (start : Nat) : List (Nat × Nat) → List (Nat × Nat)
  | [] => if start ≤ lastCodePoint then [(start, lastCodePoint)] else []
  | range :: ranges =>
    if start < range.1 then (start, range.1 - 1) :: gapsFrom (range.2 + 1) ranges
    else gapsFrom (range.2 + 1) ranges

end Bootstrapper.Text
