import Bootstrapper.Bytes
import Bootstrapper.IoError

/-!
# Paths

A path is a byte string whose segments are separated by slashes. An empty segment and the segment
`.` stay where they are; `..` names the directory above; every other segment is a name.
-/

namespace Bootstrapper.Path

open Bytes (dot slash)

/-- The size of a platform path buffer (`PATH_CAPACITY`). A path has to be shorter, for the byte
that ends it. -/
def capacity : Nat := 4096

def isAbsolute (path : Bytes) : Bool :=
  path.head? = some slash

def segments (path : Bytes) : List Bytes :=
  Bytes.split slash path

/-- Whether a segment leads nowhere. -/
def stays (segment : Bytes) : Bool :=
  segment.isEmpty || segment = [dot]

/-- Whether a segment names the directory above. -/
def climbs (segment : Bytes) : Bool :=
  segment = [dot, dot]

/-- The segments of a path that lead somewhere. -/
def steps (path : Bytes) : List Bytes :=
  (segments path).filter fun segment => !stays segment

/-- A path with one more segment. A path that is empty or ends in a slash needs no further one. -/
def push (path segment : Bytes) : Bytes :=
  match path.getLast? with
  | none => segment
  | some last => if last = slash then path ++ segment else path ++ slash :: segment

/-- A path seen from a base: itself if it is absolute. -/
def join (base path : Bytes) : Bytes :=
  if isAbsolute path then path else push base path

/-- Where an absolute path starts: two slashes and no third have a meaning of their own to the
system and are kept. -/
def root (path : Bytes) : Bytes :=
  match path with
  | a :: b :: rest =>
    if a = slash ∧ b = slash ∧ rest.head? ≠ some slash then [slash, slash] else [slash]
  | _ => [slash]

/-- A path from the root with the same meaning, found without reading the disk: segments that
lead nowhere vanish, a slash at the end is kept, and so is `..`, whose meaning the disk decides. -/
def absolute (directory : Option Bytes) (path : Bytes) : Except IoError Bytes :=
  if path.isEmpty then .error (.refused "cannot make an empty path absolute")
  else
    let start := if isAbsolute path then some (root path) else directory
    match start with
    | none => .error .notFound
    | some start =>
      -- an empty segment is pushed where a slash is to be kept at the end
      let whole := (steps path).foldl push start
      .ok (if path.getLast? = some slash then push whole [] else whole)

/-- The last segment of a path without `.`, `..` or empty segments at its end. -/
def fileName? (path : Bytes) : Option Bytes :=
  match (steps path).getLast? with
  | none => none
  | some name => if climbs name then none else some name

/-- Everything up to and including the last slash (`directory_of`). -/
def directoryOf? (path : String) : Option String :=
  match path.toList.reverse.dropWhile (· ≠ '/') with
  | [] => none
  | rest => some (String.ofList rest.reverse)

end Bootstrapper.Path
