import Bootstrapper.Proofs.Path.Full

/-!
# Full paths in one pass

`full` makes a path absolute, takes the absolute form apart into segments, and folds these. The same
result comes of one pass over the bytes of what is looked at, from the left to the right, with the
names so far and the segment that is being read.

* **`Scan`**: where such a pass stands. A slash closes the segment (`Scan.close`): a name is added,
  `..` takes the last name back, and nothing happens for `.` and for no segment at all.
* **`close_foldl_read`**: what a pass has read is the stack of segments (by induction on what is
  left to read, from `fold_reverse` for one segment that is closed).
* **`full_eq_scanned`**: the full path, and when there is none. Only the result has a bound.
-/

namespace Bootstrapper.Path

open Bytes (dot slash)

/-! ## One pass -/

/-- Where a pass over a path stands: the names that are left of what has been read, and the segment
that is being read. -/
structure Scan where
  names : List Bytes
  segment : Bytes
deriving DecidableEq, Repr

namespace Scan

def start : Scan := ⟨[], []⟩

/-- The names that are left once the segment has ended. -/
def close (scan : Scan) : List Bytes :=
  if scan.segment = [] ∨ scan.segment = [dot] then scan.names
  -- there is nothing to take back at the root
  else if scan.segment = [dot, dot] then scan.names.dropLast
  else scan.names ++ [scan.segment]

def read (scan : Scan) (b : UInt8) : Scan :=
  if b = slash then ⟨scan.close, []⟩ else ⟨scan.names, scan.segment ++ [b]⟩

end Scan

/-- What is left of a path that is read once, written from the root with a slash between names. -/
def scanned (path : Bytes) : Bytes :=
  slash :: [slash].intercalate (path.foldl Scan.read Scan.start).close

/-! ## Passes and stacks -/

/-- To close a segment is to put it on the stack. -/
theorem fold_reverse (ns : List Bytes) (segment : Bytes) :
    fold ns.reverse segment = (Scan.close ⟨ns, segment⟩).reverse := by
  unfold fold Scan.close
  by_cases hstays : segment = [] ∨ segment = [dot]
  · have hstays' : stays segment = true := by simpa [stays] using hstays
    rw [if_pos hstays', if_pos hstays]
  · have hstays' : ¬ stays segment = true := by simpa [stays] using hstays
    rw [if_neg hstays', if_neg hstays]
    by_cases hclimbs : segment = [dot, dot]
    · have hclimbs' : climbs segment = true := decide_eq_true hclimbs
      rw [if_pos hclimbs', if_pos hclimbs, List.tail_reverse]
    · have hclimbs' : ¬ climbs segment = true := by simpa [climbs] using hclimbs
      rw [if_neg hclimbs', if_neg hclimbs, List.reverse_concat]

/-- **What a pass has read is the stack of segments.** The segment that is being read goes on into
what is left. -/
theorem close_foldl_read (rest : Bytes) (ns : List Bytes) {segment : Bytes} (h : slash ∉ segment) :
    (rest.foldl Scan.read ⟨ns, segment⟩).close =
      ((segments (segment ++ rest)).foldl fold ns.reverse).reverse := by
  induction rest generalizing ns segment with
  | nil =>
    rw [List.foldl_nil, List.append_nil, segments, Bytes.split_of_not_mem h, List.foldl_cons,
      List.foldl_nil, fold_reverse, List.reverse_reverse]
  | cons b rest ih =>
    rw [List.foldl_cons, Scan.read]
    split_ifs with hb
    · -- the segment ends here, and the next one is empty so far
      rw [ih _ List.not_mem_nil, hb, List.nil_append, segments, segments, Bytes.split_append,
        Bytes.split_of_not_mem h, List.singleton_append, List.foldl_cons, fold_reverse]
    · have hsegment : slash ∉ segment ++ [b] := by simp [h, Ne.symm hb]
      rw [ih _ hsegment, List.append_assoc, List.singleton_append]

theorem scanned_eq (path : Bytes) : scanned path = ofNames (names path) := by
  have hclose : (path.foldl Scan.read Scan.start).close = names path :=
    close_foldl_read path [] List.not_mem_nil
  rw [scanned, hclose, ofNames_eq_intercalate]

/-! ## The main statement -/

/-- **The full path in one pass.** There is none exactly for the empty path, and for a path that is
not from the root when there is no current directory; the failure tells the path as text. In every
other case one pass over what is looked at gives it, and it is refused only if it has 4096 bytes or
more itself. -/
theorem full_eq_scanned (directory : Option Bytes) (path : Bytes) :
    (∀ text, full directory path = .error (.fullPath text) ↔
      (path = [] ∨ path.head? ≠ some slash ∧ directory = none) ∧ text = Utf8.decodeLossy path) ∧
    ∀ whole, anchored? directory path = some whole →
      full directory path =
        if (scanned whole).length < 4096 then .ok (scanned whole)
        else .error (.tooLong (scanned whole).length 4096) := by
  have hscanned : ∀ whole, anchored? directory path = some whole →
      full directory path =
        if (scanned whole).length < 4096 then .ok (scanned whole)
        else .error (.tooLong (scanned whole).length 4096) := by
    intro whole h
    rw [full_of_anchored h, scanned_eq]
    rfl
  refine ⟨fun text => ?_, hscanned⟩
  rw [← anchored?_eq_none_iff]
  cases h : anchored? directory path with
  | none => simp [full_of_not_anchored h, eq_comm]
  | some whole =>
    rw [hscanned whole h]
    split_ifs <;> simp

/-- Two paths that are looked at: one below a current directory that is no full path itself, where
`..` goes on at the root, and one of 5000 slashes, which is longer than any result. -/
theorem full_eq_scanned_saturated :
    anchored? (some (Utf8.encode "/srv/../home/")) (Utf8.encode "x/./../../../y//") =
        some (Utf8.encode "/srv/../home//x/./../../../y//") ∧
      full (some (Utf8.encode "/srv/../home/")) (Utf8.encode "x/./../../../y//") =
        .ok (Utf8.encode "/y") ∧
      full none (List.replicate 5000 slash) = .ok (Utf8.encode "/") := by
  have hanchored : anchored? (some (Utf8.encode "/srv/../home/")) (Utf8.encode "x/./../../../y//") =
      some (Utf8.encode "/srv/../home//x/./../../../y//") := by
    decide +kernel
  have hrelative := (full_eq_scanned _ _).2 _ hanchored
  have hslashes := (full_eq_scanned none (List.replicate 5000 slash)).2 _ rfl
  exact ⟨hanchored, hrelative.trans (by decide +kernel), hslashes.trans (by decide +kernel)⟩

end Bootstrapper.Path
