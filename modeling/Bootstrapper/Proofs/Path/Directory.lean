import Bootstrapper.Proofs.Path.Full
import Bootstrapper.Proofs.Text.Boundary
import Mathlib.Data.List.TakeWhile

/-!
# The directory of a path

`directoryOf?` looks for the last slash among the characters of a path. What it finds is the one
way to part the path into a text that ends with a slash and a name without one
(`directoryOf?_eq_some_iff`), and there is none only for a path without a slash.

No other character is written with the byte of a slash. So the slash can also be looked for among
the bytes, from the last one backwards, and the text be cut behind it (`sliceDirectory?`): the cut
never goes through a character, and the directory is the same (`sliceDirectory?_eq`). For a path
from names it is the names above (`directoryOf?_ofNames`).
-/

namespace Bootstrapper.Path

open Bytes (slash)

variable {path directory : String}

/-! ## The last slash of a text -/

/-- A text that a path begins with, up to a slash behind which there is no other. -/
def IsDirectory (path directory : String) : Prop :=
  ∃ name, path = directory ++ name ∧ directory.toList.getLast? = some '/' ∧ '/' ∉ name.toList

theorem directoryOf?_eq {before last : List Char}
    (h : path.toList = before ++ '/' :: last) (hlast : '/' ∉ last) :
    directoryOf? path = some (String.ofList (before ++ ['/'])) := by
  have hreversed : path.toList.reverse.dropWhile (· ≠ '/') = '/' :: before.reverse := by
    rw [h, List.reverse_append, List.reverse_cons, List.append_assoc, List.singleton_append,
      List.dropWhile_append_of_pos]
    · rfl
    · intro c hc
      exact decide_eq_true fun he => hlast (he ▸ List.mem_reverse.1 hc)
  rw [directoryOf?, hreversed]
  simp

/-- A path with a slash is parted at the last one. -/
theorem exists_isDirectory (h : '/' ∈ path.toList) : ∃ directory, IsDirectory path directory := by
  obtain ⟨rest, before, hreversed, hrest⟩ := List.eq_append_cons_of_mem (List.mem_reverse.2 h)
  have hpath : path.toList = (before.reverse ++ ['/']) ++ rest.reverse := by
    rw [← List.reverse_reverse path.toList, hreversed, List.reverse_append, List.reverse_cons]
  refine ⟨String.ofList (before.reverse ++ ['/']), String.ofList rest.reverse, ?_, by simp, ?_⟩
  · rw [← String.ofList_append, ← hpath, String.ofList_toList]
  · rwa [String.toList_ofList, List.mem_reverse]

theorem directoryOf?_of_isDirectory (h : IsDirectory path directory) :
    directoryOf? path = some directory := by
  obtain ⟨name, rfl, hslash, hname⟩ := h
  obtain ⟨before, hbefore⟩ := List.getLast?_eq_some_iff.1 hslash
  have hparted : (directory ++ name).toList = before ++ '/' :: name.toList := by
    rw [String.toList_append, hbefore, List.append_assoc, List.singleton_append]
  rw [directoryOf?_eq hparted hname, ← hbefore, String.ofList_toList]

theorem IsDirectory.slash_mem (h : IsDirectory path directory) : '/' ∈ directory.toList := by
  obtain ⟨name, -, hslash, -⟩ := h
  exact List.mem_of_getLast? hslash

/-- **A path without a slash has no directory**, and every other path has one. -/
theorem directoryOf?_eq_none_iff : directoryOf? path = none ↔ '/' ∉ path.toList := by
  constructor
  · intro h hslash
    obtain ⟨directory, hdirectory⟩ := exists_isDirectory hslash
    rw [directoryOf?_of_isDirectory hdirectory] at h
    cases h
  · intro h
    have hdropped : path.toList.reverse.dropWhile (· ≠ '/') = [] := by
      rw [List.dropWhile_eq_nil_iff]
      intro c hc
      exact decide_eq_true fun he => h (he ▸ List.mem_reverse.1 hc)
    rw [directoryOf?, hdropped]

/-- **What the directory of a path is.** -/
theorem directoryOf?_eq_some_iff :
    directoryOf? path = some directory ↔ IsDirectory path directory := by
  refine ⟨fun h => ?_, directoryOf?_of_isDirectory⟩
  have hslash : '/' ∈ path.toList := by
    by_contra hnone
    rw [directoryOf?_eq_none_iff.2 hnone] at h
    cases h
  obtain ⟨found, hfound⟩ := exists_isDirectory hslash
  rw [directoryOf?_of_isDirectory hfound] at h
  exact Option.some.inj h ▸ hfound

/-- **A name put behind a directory** is in that directory. -/
theorem directoryOf?_append {name : String} (h : directoryOf? path = some directory)
    (hname : '/' ∉ name.toList) : directoryOf? (directory ++ name) = some directory := by
  obtain ⟨last, -, hslash, -⟩ := directoryOf?_eq_some_iff.1 h
  exact directoryOf?_of_isDirectory ⟨name, rfl, hslash, hname⟩

/-! ## The last slash among bytes -/

/-- The last slash among the first bytes, looked for from the last of these backwards. -/
def slashBefore? (bs : Bytes) : Nat → Option Nat
  | 0 => none
  | n + 1 => if bs[n]? = some slash then some n else slashBefore? bs n

theorem slashBefore?_eq_none_iff {bs : Bytes} {n : Nat} :
    slashBefore? bs n = none ↔ ∀ place < n, bs[place]? ≠ some slash := by
  induction n with
  | zero => simp [slashBefore?]
  | succ n ih =>
    rw [slashBefore?]
    split
    · next hn =>
      simp only [reduceCtorEq, false_iff]
      exact fun h => h n (Nat.lt_succ_self n) hn
    · next hn =>
      rw [ih, Nat.forall_lt_succ_right]
      exact ⟨fun h => ⟨h, hn⟩, And.left⟩

theorem slashBefore?_eq_some_iff {bs : Bytes} {n place : Nat} :
    slashBefore? bs n = some place ↔
      place < n ∧ bs[place]? = some slash ∧
        ∀ later, place < later → later < n → bs[later]? ≠ some slash := by
  induction n with
  | zero => simp [slashBefore?]
  | succ n ih =>
    rw [slashBefore?]
    split
    · next hn =>
      constructor
      · intro h
        obtain rfl := Option.some.inj h
        exact ⟨Nat.lt_succ_self n, hn, fun later hlater hlt => absurd hlt (by omega)⟩
      · rintro ⟨hlt, -, hnone⟩
        -- a place before this one would have a slash behind it
        by_cases hplace : place = n
        · rw [hplace]
        · exact absurd hn (hnone n (by omega) (Nat.lt_succ_self n))
    · next hn =>
      rw [ih]
      constructor
      · rintro ⟨hlt, hslash, hnone⟩
        refine ⟨by omega, hslash, fun later hlater hle => ?_⟩
        by_cases hlast : later = n
        · rwa [hlast]
        · exact hnone later hlater (by omega)
      · rintro ⟨hlt, hslash, hnone⟩
        have hplace : place ≠ n := by
          rintro rfl
          exact hn hslash
        exact ⟨by omega, hslash, fun later hlater hle => hnone later hlater (by omega)⟩

theorem slash_mem_encode_iff : slash ∈ Utf8.encode path ↔ '/' ∈ path.toList :=
  Utf8.ascii_mem_encode (by decide)

/-- A directory is written with the byte of a slash at its end. -/
theorem IsDirectory.encode_eq (h : IsDirectory path directory) :
    ∃ before, directory = before ++ "/" ∧ Utf8.encode directory = Utf8.encode before ++ [slash] := by
  obtain ⟨name, -, hslash, -⟩ := h
  obtain ⟨before, hbefore⟩ := List.getLast?_eq_some_iff.1 hslash
  have hdirectory : directory = String.ofList before ++ "/" := by
    rw [← String.toList_inj, hbefore, String.toList_append, String.toList_ofList]
    rfl
  refine ⟨_, hdirectory, ?_⟩
  rw [hdirectory, Utf8.encode_append]
  rfl

/-- The search ends at the last byte of the directory. -/
theorem slashBefore?_of_isDirectory (h : IsDirectory path directory) :
    ∃ place, slashBefore? (Utf8.encode path) (Utf8.encode path).length = some place ∧
      (Utf8.encode directory).length = place + 1 := by
  obtain ⟨before, -, hencoded⟩ := h.encode_eq
  obtain ⟨name, rfl, -, hname⟩ := h
  have hlength : (Utf8.encode directory).length = (Utf8.encode before).length + 1 := by
    rw [hencoded, List.length_append, List.length_singleton]
  refine ⟨(Utf8.encode before).length, slashBefore?_eq_some_iff.2 ⟨?_, ?_, ?_⟩, hlength⟩
  · rw [Utf8.encode_append, List.length_append]
    omega
  · rw [Utf8.encode_append, hencoded, List.append_assoc, List.getElem?_append_right (Nat.le_refl _),
      Nat.sub_self]
    rfl
  · intro later hlater hend hslash
    -- what is behind the directory is written for the name
    rw [Utf8.encode_append, List.getElem?_append_right (by omega)] at hslash
    exact hname (slash_mem_encode_iff.1 (List.mem_of_getElem? hslash))

/-- The directory of a path, cut out of its bytes behind the last slash. The outer option is empty
if the cut fails. -/
def sliceDirectory? (path : String) : Option (Option String) :=
  match slashBefore? (Utf8.encode path) (Utf8.encode path).length with
  | none => some none
  | some place => (Utf8.through? path place).map some

/-- **Cutting the bytes never fails**, and gives the directory. -/
theorem sliceDirectory?_eq (path : String) : sliceDirectory? path = some (directoryOf? path) := by
  unfold sliceDirectory?
  by_cases hslash : '/' ∈ path.toList
  · obtain ⟨directory, hdirectory⟩ := exists_isDirectory hslash
    obtain ⟨place, hplace, hlength⟩ := slashBefore?_of_isDirectory hdirectory
    have hcut : Utf8.through? path place = some directory := by
      obtain ⟨name, hpath, -⟩ := hdirectory
      exact Utf8.through?_eq_some_iff.2 ⟨⟨name, hpath⟩, hlength⟩
    simp only [hplace, hcut, Option.map_some, directoryOf?_of_isDirectory hdirectory]
  · have hnone : slashBefore? (Utf8.encode path) (Utf8.encode path).length = none :=
      slashBefore?_eq_none_iff.2 fun place _ hplace =>
        hslash (slash_mem_encode_iff.1 (List.mem_of_getElem? hplace))
    simp only [hnone, directoryOf?_eq_none_iff.2 hslash]

/-- **The slash that is found stands between two characters**: the text may be cut before it and
behind it. -/
theorem boundary_of_slashBefore? {place : Nat}
    (h : slashBefore? (Utf8.encode path) (Utf8.encode path).length = some place) :
    Utf8.Boundary (Utf8.encode path) place ∧ Utf8.Boundary (Utf8.encode path) (place + 1) := by
  have hslash : '/' ∈ path.toList :=
    slash_mem_encode_iff.1 (List.mem_of_getElem? (slashBefore?_eq_some_iff.1 h).2.1)
  obtain ⟨directory, hdirectory⟩ := exists_isDirectory hslash
  obtain ⟨found, hfound, hlength⟩ := slashBefore?_of_isDirectory hdirectory
  obtain rfl : found = place := Option.some.inj (hfound.symm.trans h)
  obtain ⟨before, rfl, hencoded⟩ := hdirectory.encode_eq
  obtain ⟨name, rfl, -⟩ := hdirectory
  rw [hencoded, List.length_append, List.length_singleton, Nat.add_right_cancel_iff] at hlength
  constructor
  · exact Utf8.boundary_iff.2 ⟨before, "/" ++ name, by rw [String.append_assoc], hlength⟩
  · refine Utf8.boundary_iff.2 ⟨before ++ "/", name, rfl, ?_⟩
    rw [hencoded, List.length_append, List.length_singleton, hlength]

/-! ## Paths from names -/

/-- **The directory of a path from names** is the path of the names above, with a slash at its
end. -/
theorem directoryOf?_ofNames {names : List Bytes} {last : Bytes}
    (h : Utf8.encode path = ofNames (names ++ [last])) (hlast : slash ∉ last) :
    ∃ directory, directoryOf? path = some directory ∧ directory.toList.getLast? = some '/' ∧
      Utf8.encode directory = names.flatMap (slash :: ·) ++ [slash] := by
  rw [ofNames_concat] at h
  have hmem : '/' ∈ path.toList := by
    rw [← slash_mem_encode_iff, h]
    exact List.mem_append_right _ List.mem_cons_self
  obtain ⟨directory, hdirectory⟩ := exists_isDirectory hmem
  obtain ⟨before, -, hencoded⟩ := hdirectory.encode_eq
  obtain ⟨name, rfl, hslash, hname⟩ := id hdirectory
  refine ⟨directory, directoryOf?_of_isDirectory hdirectory, hslash, ?_⟩
  -- bytes are parted at their last slash in one way only
  have hclosing : slash ∉ Utf8.encode name := fun hmem => hname (slash_mem_encode_iff.1 hmem)
  rw [Utf8.encode_append, hencoded, List.append_assoc, List.singleton_append] at h
  have hparts := congrArg (Bytes.split slash) h
  rw [Bytes.split_append, Bytes.split_append, Bytes.split_of_not_mem hlast,
    Bytes.split_of_not_mem hclosing] at hparts
  obtain ⟨-, hsame⟩ := List.append_inj' hparts rfl
  rw [(List.cons.inj hsame).1] at h
  rw [hencoded, List.append_cancel_right h]

end Bootstrapper.Path
