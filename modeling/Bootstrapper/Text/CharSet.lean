import Bootstrapper.Text.Ranges

/-!
# Sets of characters

A set is kept as its ranges of code points, in ascending order and with gaps between them.
-/

namespace Bootstrapper

structure CharSet where
  ranges : List (Nat × Nat)
deriving DecidableEq, Repr

namespace CharSet

def holds (set : CharSet) (c : Char) : Bool :=
  Text.inRanges set.ranges c.toNat

def empty : CharSet := ⟨[]⟩

def range (first last : Char) : CharSet := ⟨[(first.toNat, last.toNat)]⟩

def only (c : Char) : CharSet := range c c

def union (a b : CharSet) : CharSet :=
  ⟨a.ranges.foldl (fun ranges range => Text.addRange range.1 range.2 ranges) b.ranges⟩

def complement (a : CharSet) : CharSet := ⟨Text.gapsFrom 0 a.ranges⟩

def intersection (a b : CharSet) : CharSet := (a.complement.union b.complement).complement

def difference (a b : CharSet) : CharSet := a.intersection b.complement

def symmetricDifference (a b : CharSet) : CharSet :=
  (a.union b).difference (a.intersection b)

def ofList (ranges : List (Char × Char)) : CharSet :=
  ranges.foldl (fun set r => (range r.1 r.2).union set) empty

def isEmpty (set : CharSet) : Bool := set.ranges.isEmpty

def isAscii (set : CharSet) : Bool := set.ranges.all fun range => range.2 < 0x80

/-- The code point of the only character of a set, if it has but one. -/
def single? (set : CharSet) : Option Nat :=
  match set.ranges with
  | [(first, last)] => if first = last then some first else none
  | _ => none

def lower : CharSet := range 'a' 'z'

def upper : CharSet := range 'A' 'Z'

/-- A set with its code points changed by a function that keeps their order. -/
def shift (set : CharSet) (f : Nat → Nat) : CharSet :=
  ⟨set.ranges.map fun range => (f range.1, f range.2)⟩

def inEitherCase (set : CharSet) : CharSet :=
  (((set.intersection lower).shift (· - 0x20)).union
    ((set.intersection upper).shift (· + 0x20))).union set

example : (only 'b').inEitherCase = ofList [('b', 'b'), ('B', 'B')] := by decide

example : (range 'a' 'z').difference (only 'm') = ofList [('n', 'z'), ('a', 'l')] := by decide

end CharSet

end Bootstrapper
