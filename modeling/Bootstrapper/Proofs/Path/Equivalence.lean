import Bootstrapper.Proofs.Path.Full
import Mathlib.Logic.Relation

/-!
# Lexical equivalence

Paths from the root can be told apart from their full paths only by what makes no difference: an
empty segment, a `.`, a name that `..` takes back right away, and a `..` at the root. To leave out
one of these is a rewrite (`Rewrites`), and two paths are equivalent if rewrites lead from one to the
other, in either direction.

* **`foldl_fold_of_shortens`**: a rewrite keeps the stack of names, wherever it takes place.
* **`eqvGen_foldl_fold`**: every path is equivalent to the one from its names (by induction on its
  segments, from `fold_shortens` for one of them; the names so far stand before them).
* **`full_eq_iff_eqvGen`**: two paths have the same full path exactly if they are equivalent.
-/

namespace Bootstrapper.Path

open Bytes (dot slash)
open Relation (EqvGen)

/-! ## Rewrites -/

/-- The path from the root with these segments. -/
def ofSegments (segments : List Bytes) : Bytes :=
  slash :: [slash].intercalate segments

/-- Segments that lead nowhere together are left out of a list of segments. -/
inductive Shortens : List Bytes → List Bytes → Prop
  | empty (before after : List Bytes) : Shortens (before ++ [] :: after) (before ++ after)
  | stay (before after : List Bytes) : Shortens (before ++ [dot] :: after) (before ++ after)
  | detour (before after : List Bytes) {name : Bytes}
      (h : name ≠ [] ∧ name ≠ [dot] ∧ name ≠ [dot, dot]) :
      Shortens (before ++ name :: [dot, dot] :: after) (before ++ after)
  -- only the root is its own parent
  | climb (after : List Bytes) : Shortens ([dot, dot] :: after) after

/-- A path with a segment or two left out. -/
def Rewrites (p q : Bytes) : Prop :=
  ∃ ss ts, (∀ s ∈ ss, slash ∉ s) ∧ Shortens ss ts ∧ p = ofSegments ss ∧ q = ofSegments ts

section

variable {ss ts stack : List Bytes} {segment p q : Bytes} {directory : Option Bytes}

theorem Shortens.subset (h : Shortens ss ts) : ts ⊆ ss := by
  cases h with
  | empty before after | stay before after =>
    exact ((List.sublist_cons_self _ after).append_left before).subset
  | @detour before after name h =>
    have hafter : after.Sublist (name :: [dot, dot] :: after) :=
      (List.sublist_cons_self _ _).trans (List.sublist_cons_self _ _)
    exact (hafter.append_left before).subset
  | climb after => exact List.subset_cons_self _ _

theorem names_ofSegments (h : ∀ s ∈ ss, slash ∉ s) :
    names (ofSegments ss) = (ss.foldl fold []).reverse := by
  rw [ofSegments, ← ofNames_eq_intercalate]
  obtain rfl | hne := eq_or_ne ss []
  · rfl
  · rw [names, segments_ofNames h hne]
    rfl

/-- A path from the root has its segments behind the first slash. -/
theorem ofSegments_split (h : isAbsolute p = true) :
    ofSegments (Bytes.split slash p.tail) = p := by
  obtain ⟨rest, rfl⟩ : ∃ rest, p = slash :: rest := List.head?_eq_some_iff.1 (of_decide_eq_true h)
  exact congrArg (slash :: ·) (Bytes.intercalate_split slash rest)

theorem fold_dots (stack : List Bytes) : fold stack [dot, dot] = stack.tail := rfl

theorem fold_of_isName (h : IsName segment) (stack : List Bytes) :
    fold stack segment = segment :: stack := by
  simp [fold, h.leads, h.descends]

/-! ## Equivalent paths have the same names -/

/-- **A rewrite keeps the stack of names**, whatever stands before it and after it. -/
theorem foldl_fold_of_shortens (h : Shortens ss ts) (hss : ∀ s ∈ ss, slash ∉ s) :
    ss.foldl fold [] = ts.foldl fold [] := by
  cases h with
  | empty before after | stay before after =>
    rw [List.foldl_append, List.foldl_cons, List.foldl_append]
    rfl
  | @detour before after name h =>
    have hname : IsName name := isName_iff.2 ⟨hss name (by simp), h⟩
    rw [List.foldl_append, List.foldl_cons, List.foldl_cons, List.foldl_append,
      fold_of_isName hname, fold_dots, List.tail_cons]
  | climb after => rw [List.foldl_cons, fold_dots, List.tail_nil]

theorem names_of_rewrites (h : Rewrites p q) : names p = names q := by
  obtain ⟨ss, ts, hss, hshortens, rfl, rfl⟩ := h
  have hts : ∀ t ∈ ts, slash ∉ t := fun t ht => hss t (hshortens.subset ht)
  rw [names_ofSegments hss, names_ofSegments hts, foldl_fold_of_shortens hshortens hss]

theorem names_of_eqvGen (h : EqvGen Rewrites p q) : names p = names q := by
  induction h with
  | rel p q h => exact names_of_rewrites h
  | refl p => rfl
  | symm p q _ ih => exact ih.symm
  | trans p q r _ _ ihpq ihqr => exact ihpq.trans ihqr

/-! ## A path is equivalent to the one from its names -/

/-- A segment behind names is one more of them, or can be left out with what it takes back. -/
theorem fold_shortens (hsegment : slash ∉ segment) (hstack : ∀ n ∈ stack, IsName n)
    (after : List Bytes) :
    stack.reverse ++ segment :: after = (fold stack segment).reverse ++ after ∨
      Shortens (stack.reverse ++ segment :: after) ((fold stack segment).reverse ++ after) := by
  by_cases hempty : segment = []
  · subst hempty
    exact .inr (.empty stack.reverse after)
  by_cases hdot : segment = [dot]
  · subst hdot
    exact .inr (.stay stack.reverse after)
  by_cases hdots : segment = [dot, dot]
  · subst hdots
    rw [fold_dots]
    cases stack with
    | nil => exact .inr (.climb after)
    | cons name stack =>
      rw [List.reverse_cons, List.append_assoc, List.singleton_append, List.tail_cons]
      exact .inr (.detour stack.reverse after (isName_iff.1 (hstack name List.mem_cons_self)).2)
  · have hname : IsName segment := isName_iff.2 ⟨hsegment, hempty, hdot, hdots⟩
    rw [fold_of_isName hname, List.reverse_cons, List.append_assoc, List.singleton_append]
    exact .inl rfl

/-- **Segments behind names are equivalent to the names that they leave.** -/
theorem eqvGen_foldl_fold (hss : ∀ s ∈ ss, slash ∉ s) (hstack : ∀ n ∈ stack, IsName n) :
    EqvGen Rewrites (ofSegments (stack.reverse ++ ss))
      (ofSegments (ss.foldl fold stack).reverse) := by
  induction ss generalizing stack with
  | nil =>
    rw [List.append_nil]
    exact .refl _
  | cons s ss ih =>
    have hs : slash ∉ s := hss s List.mem_cons_self
    have hrest := ih (fun t ht => hss t (List.mem_cons_of_mem s ht)) (isName_of_mem_fold hs hstack)
    obtain hsame | hshortens := fold_shortens hs hstack ss
    · rwa [hsame]
    · have hall : ∀ t ∈ stack.reverse ++ s :: ss, slash ∉ t :=
        List.forall_mem_append.2
          ⟨fun t ht => (hstack t (List.mem_reverse.1 ht)).slash_not_mem, hss⟩
      exact .trans _ _ _ (.rel _ _ ⟨_, _, hall, hshortens, rfl, rfl⟩) hrest

theorem eqvGen_ofNames (h : isAbsolute p = true) : EqvGen Rewrites p (ofNames (names p)) := by
  have hsegments : ∀ s ∈ Bytes.split slash p.tail, slash ∉ s := fun s => Bytes.not_mem_of_mem_split
  have hpath : EqvGen Rewrites (ofSegments (Bytes.split slash p.tail))
      (ofSegments ((Bytes.split slash p.tail).foldl fold []).reverse) :=
    @eqvGen_foldl_fold _ [] hsegments (by simp)
  rw [← names_ofSegments hsegments, ofSegments_split h] at hpath
  rw [ofNames_eq_intercalate]
  exact hpath

/-- A path from names tells its names. -/
theorem ofNames_names_inj : ofNames (names p) = ofNames (names q) ↔ names p = names q := by
  constructor
  · intro h
    have hnames := congrArg names h
    rwa [names_ofNames fun _ => isName_of_mem_names, names_ofNames fun _ => isName_of_mem_names]
      at hnames
  · exact congrArg ofNames

/-- **Paths from the root have the same names exactly if they are equivalent.** -/
theorem names_eq_iff_eqvGen (hp : isAbsolute p = true) (hq : isAbsolute q = true) :
    names p = names q ↔ EqvGen Rewrites p q := by
  constructor
  · intro h
    have hnormal : EqvGen Rewrites p (ofNames (names q)) := h ▸ eqvGen_ofNames hp
    exact .trans _ _ _ hnormal (.symm _ _ (eqvGen_ofNames hq))
  · exact names_of_eqvGen

theorem eq_ofNames_of_full {full : Bytes} (hp : isAbsolute p = true)
    (h : Path.full directory p = .ok full) : full = ofNames (names p) := by
  rw [full_of_anchored (anchored?_of_isAbsolute hp)] at h
  split_ifs at h
  exact (Except.ok.inj h).symm

end

/-! ## The main statement -/

/-- **Two paths from the root have the same full path exactly if they are equivalent.** The paths on
the way from one to the other may be of any length. -/
theorem full_eq_iff_eqvGen (directory : Option Bytes) (p q full full' : Bytes)
    (hp : isAbsolute p = true) (hq : isAbsolute q = true)
    (hfull : Path.full directory p = .ok full) (hfull' : Path.full directory q = .ok full') :
    Path.full directory p = Path.full directory q ↔ EqvGen Rewrites p q := by
  rw [hfull, hfull', Except.ok.injEq, eq_ofNames_of_full hp hfull, eq_ofNames_of_full hq hfull',
    ofNames_names_inj]
  exact names_eq_iff_eqvGen hp hq

/-- Two spellings of one path, and a path that no rewrites lead to. -/
theorem full_eq_iff_eqvGen_spellings :
    Path.full none (Utf8.encode "/a/./b/../../c//") = .ok (Utf8.encode "/c") ∧
      Path.full none (Utf8.encode "/../c") = .ok (Utf8.encode "/c") ∧
      Path.full none (Utf8.encode "/c/..a") = .ok (Utf8.encode "/c/..a") ∧
      EqvGen Rewrites (Utf8.encode "/a/./b/../../c//") (Utf8.encode "/../c") ∧
      ¬ EqvGen Rewrites (Utf8.encode "/c/..a") (Utf8.encode "/../c") := by
  have hlong : Path.full none (Utf8.encode "/a/./b/../../c//") = .ok (Utf8.encode "/c") := by
    decide +kernel
  have hshort : Path.full none (Utf8.encode "/../c") = .ok (Utf8.encode "/c") := by decide +kernel
  have hother : Path.full none (Utf8.encode "/c/..a") = .ok (Utf8.encode "/c/..a") := by
    decide +kernel
  have hsame := full_eq_iff_eqvGen none _ _ _ _ (by decide) (by decide) hlong hshort
  have hapart := full_eq_iff_eqvGen none _ _ _ _ (by decide) (by decide) hother hshort
  refine ⟨hlong, hshort, hother, hsame.1 (hlong.trans hshort.symm), mt hapart.2 ?_⟩
  rw [hother, hshort]
  decide +kernel

end Bootstrapper.Path
