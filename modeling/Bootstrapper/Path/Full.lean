import Bootstrapper.Failure
import Bootstrapper.Path.Basic

/-!
# Full paths

The one spelling of a path from the root that has no empty segment, no `.` and no `..`: the
absolute form, with its segments folded on a stack (`absolutize`). The disk is not read, so `..`
always takes back the name before it. Paths of systems with drive letters are left out.
-/

namespace Bootstrapper.Path

open Bytes (slash)

/-- One segment on a stack of names, the last name first. -/
def fold (stack : List Bytes) (segment : Bytes) : List Bytes :=
  if stays segment then stack
  -- above the root is the root, which is the empty stack
  else if climbs segment then stack.tail
  else segment :: stack

def names (path : Bytes) : List Bytes :=
  ((segments path).foldl fold []).reverse

def ofNames : List Bytes → Bytes
  | [] => [slash]
  | names => names.flatMap (slash :: ·)

/-- The full path of `path` seen from the current directory, if that is available
(`full_path_name`). Only the result is bounded, not what was given. -/
def full (directory : Option Bytes) (path : Bytes) : Except Failure Bytes :=
  match absolute directory path with
  | .error _ => .error (.fullPath (Utf8.decodeLossy path))
  | .ok whole =>
    let result := ofNames (names whole)
    if result.length < capacity then .ok result
    else .error (.tooLong result.length capacity)

end Bootstrapper.Path
