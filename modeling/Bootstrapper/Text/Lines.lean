/-!
# Lines of a text

A line ends at a line feed, together with one carriage return directly before it. What stands
after the last line feed is a line of its own if it is not empty, and keeps its carriage returns.
-/

namespace Bootstrapper.Lines

def ofChars : List Char → List (List Char)
  | [] => []
  | '\n' :: cs => [] :: ofChars cs
  | '\r' :: '\n' :: cs => [] :: ofChars cs
  | c :: cs =>
    match ofChars cs with
    | [] => [[c]]
    | line :: lines => (c :: line) :: lines

def after? : List Char → List Char → Option (List Char)
  | [], cs => some cs
  | _ :: _, [] => none
  | s :: start, c :: cs => if s = c then after? start cs else none

def firstAfter? (start : String) (text : String) : Option (List Char) :=
  (ofChars text.toList).findSome? (after? start.toList)

def occursIn (part : List Char) : List Char → Bool
  | [] => part.isEmpty
  | c :: cs => part.isPrefixOf (c :: cs) || occursIn part cs

end Bootstrapper.Lines

namespace Bootstrapper

def mentions (text part : String) : Bool :=
  Lines.occursIn part.toList text.toList

end Bootstrapper
