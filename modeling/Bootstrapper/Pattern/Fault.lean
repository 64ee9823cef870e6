import Bootstrapper.Text.Lines

/-!
# Faults of patterns

What can be wrong with the text of a pattern, and where. A fault is shown with the pattern and with
marks under the characters in question; the lines of a pattern that has several are numbered.
-/

namespace Bootstrapper.Pattern

/-- A part of a pattern's text: how many characters stand before its first one, and how many before
what follows its last one. -/
structure Span where
  first : Nat
  behind : Nat
deriving DecidableEq, Repr

inductive Problem
  | setEscape
  | setReversed
  | setBound
  | setUnclosed
  | numberInvalid
  | hexEmpty
  | hexValue
  | hexDigit
  | escapeUnfinished
  | escapeUnknown
  | modeDangling
  | modeRepeated
  | negationRepeated
  | modeUnfinished
  | modeUnknown
  | nameRepeated
  | nameEmpty
  | nameInvalid
  | nameUnclosed
  | groupUnclosed
  | groupUnopened
  | nestedTooDeep
  | countReversed
  | countMissing
  | countUnclosed
  | nothingRepeated
  | edgeUnclosed
  | edgeUnknown
  | edgeUnfinished
  | propertyInvalid
  | backReference
  | lookAround
  | notUnicode
  | invalidUtf8
  | propertyUnknown
  | propertyValueUnknown
  | shorthandUnknown
  | caseUnknown
deriving DecidableEq, Repr

def depthLimit : Nat := 250

def Problem.message : Problem → String
  | .setEscape => "invalid escape sequence found in character class"
  | .setReversed => "invalid character class range, the start must be <= the end"
  | .setBound => "invalid range boundary, must be a literal"
  | .setUnclosed => "unclosed character class"
  | .numberInvalid => "decimal literal invalid"
  | .hexEmpty => "hexadecimal literal empty"
  | .hexValue => "hexadecimal literal is not a Unicode scalar value"
  | .hexDigit => "invalid hexadecimal digit"
  | .escapeUnfinished => "incomplete escape sequence, reached end of pattern prematurely"
  | .escapeUnknown => "unrecognized escape sequence"
  | .modeDangling => "dangling flag negation operator"
  | .modeRepeated => "duplicate flag"
  | .negationRepeated => "flag negation operator repeated"
  | .modeUnfinished => "expected flag but got end of regex"
  | .modeUnknown => "unrecognized flag"
  | .nameRepeated => "duplicate capture group name"
  | .nameEmpty => "empty capture group name"
  | .nameInvalid => "invalid capture group character"
  | .nameUnclosed => "unclosed capture group name"
  | .groupUnclosed => "unclosed group"
  | .groupUnopened => "unopened group"
  | .nestedTooDeep =>
    "exceed the maximum number of nested parentheses/brackets (" ++ toString depthLimit ++ ")"
  | .countReversed => "invalid repetition count range, the start must be <= the end"
  | .countMissing => "repetition quantifier expects a valid decimal"
  | .countUnclosed => "unclosed counted repetition"
  | .nothingRepeated => "repetition operator missing expression"
  | .edgeUnclosed =>
    "special word boundary assertion is either unclosed or contains an invalid character"
  | .edgeUnknown =>
    "unrecognized special word boundary assertion, "
      ++ "valid choices are: start, end, start-half or end-half"
  | .edgeUnfinished =>
    "found either the beginning of a special word boundary or a bounded repetition "
      ++ "on a \\b with an opening brace, but no closing brace"
  | .propertyInvalid => "invalid Unicode character class"
  | .backReference => "backreferences are not supported"
  | .lookAround => "look-around, including look-ahead and look-behind, is not supported"
  | .notUnicode => "Unicode not allowed here"
  | .invalidUtf8 => "pattern can match invalid UTF-8"
  | .propertyUnknown => "Unicode property not found"
  | .propertyValueUnknown => "Unicode property value not found"
  | .shorthandUnknown =>
    "Unicode-aware Perl class not found (make sure the unicode-perl feature is enabled)"
  | .caseUnknown =>
    "Unicode-aware case insensitivity matching is not available "
      ++ "(make sure the unicode-case feature is enabled)"

/-- A problem at a place, and the earlier place that it clashes with if there is one. -/
structure Fault where
  problem : Problem
  span : Span
  earlier : Option Span
deriving DecidableEq, Repr

/-! ## Lines and columns -/

/-- A place in a text of several lines. Lines and columns are counted from zero. -/
structure Position where
  line : Nat
  column : Nat
deriving DecidableEq, Repr

def Position.behind (cs : List Char) : Position :=
  ⟨cs.count '\n', (cs.reverse.takeWhile (· ≠ '\n')).length⟩

structure Region where
  first : Position
  behind : Position
deriving DecidableEq, Repr

namespace Region

def ofSpan (cs : List Char) (span : Span) : Region :=
  ⟨.behind (cs.take span.first), .behind (cs.take span.behind)⟩

def isOnOneLine (region : Region) : Bool :=
  region.first.line = region.behind.line

/-- Adds marks for a region to those for the regions before it on the line; an empty region gets
one too. -/
def addMarks (marks : List Char) (region : Region) : List Char :=
  let width := max 1 (region.behind.column - region.first.column)
  marks ++ List.replicate (region.first.column - marks.length) ' ' ++ List.replicate width '^'

def note (region : Region) : String :=
  "on line " ++ toString (region.first.line + 1)
    ++ " (column " ++ toString (region.first.column + 1)
    ++ ") through line " ++ toString (region.behind.line + 1)
    ++ " (column " ++ toString region.behind.column ++ ")"

end Region

/-! ## The text of a fault -/

/-- A line of a pattern behind its margin, and the line of marks for the regions on it. -/
def markedLine (margin : String) (line : List Char) (regions : List Region) : String :=
  let marks := regions.foldl Region.addMarks []
  margin ++ String.ofList line ++ "\n"
    ++ if regions.isEmpty then ""
       else String.ofList (List.replicate margin.length ' ' ++ marks) ++ "\n"

/-- The margin of a line: its number, or blanks if there is only one line. -/
def margin (count number : Nat) : String :=
  if count ≤ 1 then "    "
  else
    let digits := toString number
    String.ofList (List.replicate ((toString count).length - digits.length) ' ') ++ digits ++ ": "

def markedLines (cs : List Char) (regions : List Region) : String :=
  let lines := Lines.ofChars cs
  -- a line break at the end counts as a line, but is not printed as one
  let count := lines.length + if cs.getLast? = some '\n' then 1 else 0
  String.join <| lines.mapIdx fun i line =>
    markedLine (margin count (i + 1)) line
      (regions.filter fun region => region.isOnOneLine && region.first.line = i)

def divider : String := String.ofList (List.replicate 79 '~') ++ "\n"

def Fault.regions (fault : Fault) (cs : List Char) : List Region :=
  let spans := fault.earlier.toList ++ [fault.span]
  (spans.mergeSort fun a b => a.first ≤ b.first).map (Region.ofSpan cs)

def Fault.message (fault : Fault) (text : String) : String :=
  let cs := text.toList
  let regions := fault.regions cs
  let notes := regions.filter fun region => !region.isOnOneLine
  let body :=
    if cs.contains '\n' then
      divider ++ markedLines cs regions ++ divider
        ++ if notes.isEmpty then "" else "\n".intercalate (notes.map Region.note) ++ "\n"
    else markedLines cs regions
  "regex parse error:\n" ++ body ++ "error: " ++ fault.problem.message

end Bootstrapper.Pattern
