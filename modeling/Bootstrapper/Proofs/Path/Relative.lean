import Bootstrapper.Proofs.Path.Full
import Mathlib.Data.List.DropRight

/-!
# Relative paths

A relative path is looked at below the current directory, and its full path is folded from the names
of both. All that it does to the names of the directory can be told from the path alone: it takes
back so many of them, the last one first, and adds names of its own (`Offset`).

* **`fold_below`**: a segment that is folded behind the directory moves the offset by a step, also
  where the directory has no names left to be taken back: a name that comes later then stands at the
  root.
* **`names_below`**: what is looked at has the names at the offset of the path.
* **`full_below`**: the full path of a relative path, from the names of the directory. It is the
  same when the directory is written before the path, whatever the current directory is.
-/

namespace Bootstrapper.Path

open Bytes (dot slash)

/-! ## Offsets -/

/-- Where a path leads from any directory: how often it leads up from there, and the names below. -/
structure Offset where
  up : Nat
  names : List Bytes
deriving DecidableEq, Repr

namespace Offset

def start : Offset := ⟨0, []⟩

/-- The offset behind one more segment. -/
def step (offset : Offset) (segment : Bytes) : Offset :=
  if stays segment then offset
  else if climbs segment then
    -- with no name of its own to take back, the path leads up from where it started
    if offset.names = [] then ⟨offset.up + 1, []⟩ else ⟨offset.up, offset.names.dropLast⟩
  else ⟨offset.up, offset.names ++ [segment]⟩

def ofPath (path : Bytes) : Offset :=
  (segments path).foldl step start

/-- The names at an offset from a directory that may have fewer names than are to be taken back. -/
def below (offset : Offset) (directory : List Bytes) : List Bytes :=
  directory.rdrop (min offset.up directory.length) ++ offset.names

end Offset

theorem below_eq (offset : Offset) (ns : List Bytes) :
    offset.below ns = ns.rdrop offset.up ++ offset.names := by
  have hlength : ns.length - min offset.up ns.length = ns.length - offset.up := by omega
  rw [Offset.below, List.rdrop, List.rdrop, hlength]

theorem tail_reverse_rdrop (ns : List Bytes) (n : Nat) :
    (ns.rdrop n).reverse.tail = (ns.rdrop (n + 1)).reverse := by
  rw [List.rdrop_eq_reverse_drop_reverse, List.rdrop_eq_reverse_drop_reverse, List.reverse_reverse,
    List.reverse_reverse, List.tail_drop]

/-- **To fold a segment is to move by a step.** -/
theorem fold_below (ns : List Bytes) (offset : Offset) (segment : Bytes) :
    fold (offset.below ns).reverse segment = ((offset.step segment).below ns).reverse := by
  rw [below_eq, below_eq, fold, Offset.step]
  split_ifs with hstays hclimbs hnames
  · rfl
  · -- the path has no name of its own left, and the next one of the directory goes
    rw [hnames, List.append_nil, List.append_nil, tail_reverse_rdrop]
  · rw [List.tail_reverse, List.dropLast_append_of_ne_nil hnames]
  · rw [← List.append_assoc, List.reverse_concat]

theorem foldl_fold_below (segments ns : List Bytes) (offset : Offset) :
    segments.foldl fold (offset.below ns).reverse =
      ((segments.foldl Offset.step offset).below ns).reverse := by
  induction segments generalizing offset with
  | nil => rfl
  | cons segment segments ih => rw [List.foldl_cons, List.foldl_cons, fold_below, ih]

/-- **The names of a path below a directory** are those at its offset. -/
theorem names_below (directory path : Bytes) :
    names (directory ++ slash :: path) = (Offset.ofPath path).below (names directory) := by
  have hdirectory : (segments directory).foldl fold [] =
      (Offset.start.below (names directory)).reverse := by
    rw [below_eq, Offset.start, List.rdrop_zero, List.append_nil, names, List.reverse_reverse]
  have hsegments : segments (directory ++ slash :: path) = segments directory ++ segments path :=
    Bytes.split_append slash directory path
  rw [names, hsegments, List.foldl_append, hdirectory, foldl_fold_below, List.reverse_reverse]
  rfl

/-! ## The path of more names -/

/-- A path from more names is the path from the first ones, or lies below it. -/
theorem ofNames_append {ns : List Bytes} (h : ∀ n ∈ ns, IsName n) (more : List Bytes) :
    ofNames (ns ++ more) = ofNames ns ∨ push (ofNames ns) [] <+: ofNames (ns ++ more) := by
  cases more with
  | nil => exact .inl (by rw [List.append_nil])
  | cons name more =>
    -- with a slash at its end the shorter path goes on into the next name
    have hclosed : push (ofNames ns) [] = ofNames (ns ++ [[]]) :=
      @push_rooted false ns [] fun n hn => (h n hn).toIsStep
    rw [hclosed, ofNames_concat, ofNames_eq (by simp), List.flatMap_append, List.flatMap_cons]
    exact .inr ⟨name ++ more.flatMap (slash :: ·), by simp⟩

/-! ## The main statement -/

/-- **How a relative path depends on the current directory.** As many names are taken back from
those of the directory as the path leads up from where it starts, or all of them, and the names that
the path ends with are put behind the rest. The path from these names is the full path, unless it is
too long, and it is also that of the directory and the path written one behind the other, which no
other directory changes. A path that does not lead up from where it starts stays in the
directory. -/
theorem full_below (directory path : Bytes) (hdirectory : isAbsolute directory = true)
    (hne : path ≠ []) (hrelative : isAbsolute path = false) :
    let offset := Offset.ofPath path
    let kept := (names directory).rdrop (min offset.up (names directory).length)
    let target := ofNames (kept ++ offset.names)
    (∀ name ∈ kept ++ offset.names, IsName name) ∧
      full (some directory) path =
        (if target.length < 4096 then .ok target else .error (.tooLong target.length 4096)) ∧
      (∀ other, full other (directory ++ slash :: path) = full (some directory) path) ∧
      (offset.up = 0 → target = ofNames (names directory) ∨
        push (ofNames (names directory)) [] <+: target) := by
  intro offset kept target
  have hnames : names (directory ++ slash :: path) = kept ++ offset.names :=
    names_below directory path
  have hanchored : anchored? (some directory) path = some (directory ++ slash :: path) := by
    rw [anchored?, if_neg hne, if_neg (of_decide_eq_false hrelative)]
    rfl
  have hwhole : isAbsolute (directory ++ slash :: path) = true := by
    obtain ⟨rest, rfl⟩ := List.head?_eq_some_iff.1 (of_decide_eq_true hdirectory)
    rfl
  refine ⟨fun name hname => isName_of_mem_names (hnames ▸ hname), ?_, fun other => ?_,
    fun hup => ?_⟩
  · rw [full_of_anchored hanchored, hnames]
    rfl
  · rw [full_of_anchored (anchored?_of_isAbsolute hwhole), full_of_anchored hanchored]
  · -- nothing is taken back from the directory
    have hkept : kept = names directory := by
      show (names directory).rdrop (min offset.up _) = names directory
      rw [hup, Nat.zero_min, List.rdrop_zero]
    show ofNames (kept ++ offset.names) = _ ∨ _ <+: ofNames (kept ++ offset.names)
    rw [hkept]
    exact ofNames_append (fun n => isName_of_mem_names) offset.names

/-- From a directory of two names, written with a detour, a path leads up four times and comes out
at the root; another one leads up and down inside of the directory. -/
theorem full_below_saturated :
    let directory := Utf8.encode "/srv/../home//me/"
    isAbsolute directory = true ∧ names directory = [Utf8.encode "home", Utf8.encode "me"] ∧
      Offset.ofPath (Utf8.encode "x/../.././../../../y") = ⟨4, [Utf8.encode "y"]⟩ ∧
      full (some directory) (Utf8.encode "x/../.././../../../y") = .ok (Utf8.encode "/y") ∧
      Offset.ofPath (Utf8.encode "a/../b/") = ⟨0, [Utf8.encode "b"]⟩ ∧
      full none (directory ++ slash :: Utf8.encode "a/../b/") =
        .ok (Utf8.encode "/home/me/b") := by
  intro directory
  have hdirectory : isAbsolute directory = true := by decide +kernel
  have hup := full_below directory (Utf8.encode "x/../.././../../../y") hdirectory
    (by decide +kernel) (by decide +kernel)
  have hdown := full_below directory (Utf8.encode "a/../b/") hdirectory (by decide +kernel)
    (by decide +kernel)
  exact ⟨hdirectory, by decide +kernel, by decide +kernel, hup.2.1.trans (by decide +kernel),
    by decide +kernel, (hdown.2.2.1 none).trans (hdown.2.1.trans (by decide +kernel))⟩

end Bootstrapper.Path
