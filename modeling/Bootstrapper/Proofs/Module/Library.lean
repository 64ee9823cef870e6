import Bootstrapper.Module.Library
import Bootstrapper.Proofs.Files.Tree

/-!
# Modules that are found by a path from the root

What a path from the root refers to depends on the program that asks and on the system's libraries,
but not on the current directory or on what is searched, and more files do not hide it
(`load_of_keeps`).
-/

namespace Bootstrapper.Module.Libraries

open Bytes (slash nul)

section

variable {libraries other : Libraries} {name : Bytes} {exports : Module}

theorem expandWith_congr (horigin : other.origin = libraries.origin)
    (hsystem : other.system = libraries.system) (fuel : Nat) (name : Bytes) :
    other.expandWith fuel name = libraries.expandWith fuel name := by
  have hreference : ∀ name, other.reference? name = libraries.reference? name := fun name => by
    rw [reference?, reference?, references, references, horigin, hsystem]
  induction fuel generalizing name with
  | zero => rfl
  | succ fuel ih =>
    cases name with
    | nil => rfl
    | cons b name =>
      rw [expandWith, expandWith, hreference]
      split_ifs
      · cases libraries.reference? name with
        | none => exact congrArg (b :: ·) (ih name)
        | some found => exact congrArg (found.1 ++ ·) (ih found.2)
      · rw [ih]

/-- A path from the root is looked up where its references are filled in, and nowhere else. -/
theorem pathOf_of_isAbsolute (h : Path.isAbsolute name = true) :
    libraries.pathOf name = libraries.expand name ∧
      Path.isAbsolute (libraries.expand name) = true := by
  obtain ⟨rest, rfl⟩ : ∃ rest, name = slash :: rest := by
    cases name with
    | nil => cases h
    | cons b rest =>
      obtain rfl : b = slash := by simpa [Path.isAbsolute] using h
      exact ⟨rest, rfl⟩
  have hexpand : libraries.expand (slash :: rest) =
      slash :: libraries.expandWith rest.length rest := by
    rw [expand, List.length_cons, expandWith, if_neg (by decide)]
  refine ⟨?_, by rw [hexpand]; rfl⟩
  have hpaths : libraries.pathsOf (slash :: rest) = [libraries.expand (slash :: rest)] :=
    if_pos (by simp)
  rw [pathOf, hpaths]
  cases h : [libraries.expand (slash :: rest)].find? (libraries.files.holds libraries.directory) with
  | none => rfl
  | some path => exact List.mem_singleton.1 (List.mem_of_find?_eq_some h)

/-- **A module that is found by a path from the root is found again** among more files, from any
directory and whatever is searched. -/
theorem load_of_keeps (horigin : other.origin = libraries.origin)
    (hsystem : other.system = libraries.system) (hfiles : libraries.files.Keeps other.files)
    (habsolute : Path.isAbsolute name = true) (hnul : nul ∉ name)
    (h : libraries.load name = .ok exports) : other.load name = .ok exports := by
  have hname : systemName name = .ok name := by
    have hlast : name.getLast? ≠ some nul := fun he => hnul (List.mem_of_getLast? he)
    simp [systemName, hlast, hnul]
  have hempty : name.isEmpty = false := Path.isEmpty_of_isAbsolute habsolute
  have hload : ∀ loader : Libraries, loader.load name = loader.openFile name := fun loader => by
    simp only [load, hname, hempty, Bool.false_eq_true, if_false]
  have hpath : libraries.pathOf name = libraries.expand name := (pathOf_of_isAbsolute habsolute).1
  have hexpanded : Path.isAbsolute (libraries.expand name) = true :=
    (pathOf_of_isAbsolute habsolute).2
  have hsame : other.expand name = libraries.expand name := expandWith_congr horigin hsystem _ _
  have hother : other.pathOf name = libraries.expand name :=
    (pathOf_of_isAbsolute habsolute).1.trans hsame
  rw [hload, openFile, hpath] at h
  rw [hload, openFile, hother]
  dsimp only at h
  split at h
  case h_7 found hfound =>
    have hlookup := hfiles.lookup hfound
    rw [FileTree.lookup_of_isAbsolute other.files hexpanded _ other.directory] at hlookup
    rw [hlookup]
    exact h
  all_goals cases h

end

end Bootstrapper.Module.Libraries
