/-!
# Similar words

How similar two words are, after Jaro: equal characters are paired if they stand about as far from
the beginning, and the similarity is the mean of three parts, namely how much of either word is
paired, and how many of the pairs are in order.
-/

namespace Bootstrapper.Similarity

/-- A similarity, from zero to one. -/
structure Ratio where
  numerator : Nat
  denominator : Nat
deriving DecidableEq, Repr

def Ratio.atMost (a b : Ratio) : Bool :=
  a.numerator * b.denominator ≤ b.numerator * a.denominator

def reach (a b : List Char) : Nat :=
  max a.length b.length / 2 - 1

/-- Takes the first free place of a character among the places from `low` to below `high`; `place`
is the number of the first one given. None if there is no such place. -/
def claim (low high place : Nat) (c : Char) : List (Char × Bool) → Option (List (Char × Bool))
  | [] => none
  | (d, taken) :: rest =>
    if low ≤ place ∧ place < high ∧ d = c ∧ taken = false then some ((d, true) :: rest)
    else (claim low high (place + 1) c rest).map ((d, taken) :: ·)

/-- Pairs the characters of a word, the first of which stands at `place`, with free places of
another. Answers with those that are paired, and with the places that are left and taken. -/
def pair (reach place : Nat) : List Char → List (Char × Bool) → List Char × List (Char × Bool)
  | [], places => ([], places)
  | c :: cs, places =>
    match claim (place - reach) (place + reach + 1) 0 c places with
    | some places =>
      let rest := pair reach (place + 1) cs places
      (c :: rest.1, rest.2)
    | none => pair reach (place + 1) cs places

def ratio (a b : List Char) : Ratio :=
  let paired := pair (reach a b) 0 a (b.map (·, false))
  let other := (paired.2.filter (·.2)).map (·.1)
  let count := paired.1.length
  -- a pair out of order stands in the place of another, so two count as one
  let displaced := ((paired.1.zip other).filter fun p => p.1 ≠ p.2).length / 2
  if count = 0 then ⟨0, 1⟩
  else
    -- the three parts over the denominator that they have in common
    ⟨count * count * (a.length + b.length) + (count - displaced) * a.length * b.length,
      3 * a.length * b.length * count⟩

/-- The similarity from which on one word may have been meant for the other. -/
def threshold : Ratio := ⟨7, 10⟩

/-- Of some candidates the one whose word is most similar to a word, the last of equally similar
ones; none if no candidate is similar. -/
def best? {α : Type} (spelling : α → List Char) (word : List Char) (candidates : List α) :
    Option α :=
  let rated := candidates.map fun candidate => (candidate, ratio word (spelling candidate))
  (rated.foldl (fun best entry =>
    if !threshold.atMost entry.2 then best
    else
      match best with
      | none => some entry
      | some b => if b.2.atMost entry.2 then some entry else best) none).map (·.1)

example : ratio "appbas".toList "appbase".toList = ⟨720, 756⟩ := by decide +kernel

example : ratio "martha".toList "marhta".toList = ⟨612, 648⟩ := by decide +kernel

end Bootstrapper.Similarity
