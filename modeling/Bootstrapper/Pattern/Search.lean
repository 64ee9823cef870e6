import Bootstrapper.Pattern.Basic

/-!
# Searching for patterns

A text is gone through once. Behind each character the pattern carries marks on those of its
characters that the text may have come to: `shift` moves them on by one character. Matches may
begin anywhere, so a new mark enters at every place; one is found where the pattern is done, or where
it matches without a character.

Marks do not count rounds, so repetition with bounds is written out. As many copies as a text has
characters and one more are as good as any greater number: of that many rounds one takes no
character, and such a round can be left out or made again.
-/

namespace Bootstrapper.Pattern

/-- A pattern with marks at a place of a text. With the parts comes what is known of them there:
whether they match without a character, and whether a match has just come to their end. -/
inductive Marked
  | empty
  | assertion (assertion : Assertion) (holds : Bool)
  | char (set : CharSet) (isMarked : Bool)
  | sequence (isSkipped isDone : Bool) (a b : Marked)
  | either (isSkipped isDone : Bool) (a b : Marked)
  | rounds (isDone : Bool) (a : Marked)
deriving DecidableEq, Repr

namespace Marked

def isSkipped : Marked → Bool
  | .empty => true
  | .assertion _ holds => holds
  | .char _ _ => false
  | .sequence isSkipped _ _ _ => isSkipped
  | .either isSkipped _ _ _ => isSkipped
  | .rounds _ _ => true

def isDone : Marked → Bool
  | .empty | .assertion _ _ => false
  | .char _ isMarked => isMarked
  | .sequence _ isDone _ _ => isDone
  | .either _ isDone _ _ => isDone
  | .rounds isDone _ => isDone

/-- One part behind another. -/
def inSequence (a b : Marked) : Marked :=
  .sequence (a.isSkipped && b.isSkipped) ((a.isDone && b.isSkipped) || b.isDone) a b

def inChoice (a b : Marked) : Marked :=
  .either (a.isSkipped || b.isSkipped) (a.isDone || b.isDone) a b

/-- Any number of rounds of a part. -/
def inRounds (a : Marked) : Marked := .rounds a.isDone a

def copies (a : Marked) (count : Nat) : Marked :=
  if count = 0 then .empty
  else if count = 1 then a
  else inSequence (a.copies (count / 2)) (a.copies (count - count / 2))
termination_by count

/-- A pattern at a place with no marks yet. `limit` bounds the copies of what is repeated. -/
def ofPattern (limit : Nat) (place : Place) : Pattern → Marked
  | .empty => .empty
  | .char set => .char set false
  | .assertion a => .assertion a (a.isTrueOf place)
  | .sequence a b => inSequence (ofPattern limit place a) (ofPattern limit place b)
  | .either a b => inChoice (ofPattern limit place a) (ofPattern limit place b)
  | .captured a => ofPattern limit place a
  | .repeated a least most =>
    let part := ofPattern limit place a
    let least := min least limit
    let others :=
      match most with
      | none => inRounds part
      | some most => (inChoice part .empty).copies (min most limit - least)
    if least = 0 then others else inSequence (part.copies least) others

/-- Moves the marks on by a character, to the place behind it. `enters` if a match can begin at the
part before the character. -/
def shift (c : Char) (place : Place) (enters : Bool) : Marked → Marked
  | .empty => .empty
  | .assertion a _ => .assertion a (a.isTrueOf place)
  | .char set _ => .char set (enters && set.holds c)
  | .sequence _ _ a b =>
    -- a match comes to the second part where the first is skipped or done
    inSequence (a.shift c place enters)
      (b.shift c place ((enters && a.isSkipped) || a.isDone))
  | .either _ _ a b => inChoice (a.shift c place enters) (b.shift c place enters)
  | .rounds isDone a => inRounds (a.shift c place (enters || isDone))

/-- Whether a match ends at the place or, as marks move on, at one behind it. -/
def finds (marked : Marked) : List Char → Bool
  | [] => marked.isSkipped || marked.isDone
  | c :: cs =>
    if marked.isSkipped || marked.isDone then true
    else (marked.shift c ⟨some c, cs.head?⟩ true).finds cs

end Marked

def isFoundIn (pattern : Pattern) (text : String) : Bool :=
  let cs := text.toList
  -- one copy more than there are characters
  (Marked.ofPattern (cs.length + 1) ⟨none, cs.head?⟩ pattern).finds cs

example : (repeated (char (.only 'b')) 2 (some 3)).isFoundIn "abbc" = true := by decide +kernel

example : (repeated (char (.only 'b')) 3 none).isFoundIn "abbc" = false := by decide +kernel

end Bootstrapper.Pattern
