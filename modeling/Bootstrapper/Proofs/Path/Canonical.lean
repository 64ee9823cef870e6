import Bootstrapper.Proofs.Path.Full

/-!
# Canonical paths

A full path is from the root and short enough, with a name in every component. This says it without
names or stacks (`IsCanonical`), and it is all that can be said: the canonical paths are those that
are written from names and fit (`isCanonical_iff`), and these are their own full paths, seen from any
directory and from none (`IsCanonical.full_eq`).
-/

namespace Bootstrapper.Path

open Bytes (dot slash)

/-- The one spelling that a full path has. What stands between two slashes, or behind the last one,
is a component; the root alone has none. -/
structure IsCanonical (path : Bytes) : Prop where
  length_pos : 1 ≤ path.length
  length_le : path.length ≤ 4095
  from_root : path.head? = some slash
  plain : path = [slash] ∨ ∀ component ∈ Bytes.split slash path.tail,
    component ≠ [] ∧ component ≠ [dot] ∧ component ≠ [dot, dot]
  bare : path.getLast? = some slash → path = [slash]

section

variable {directory : Option Bytes} {path full : Bytes} {ns : List Bytes}

/-- The components of a path from names are the names. -/
theorem split_tail_ofNames (h : ∀ n ∈ ns, IsName n) (hne : ns ≠ []) :
    Bytes.split slash (ofNames ns).tail = ns := by
  have hsegments : segments (ofNames ns) = [] :: ns :=
    segments_ofNames (fun n hn => (h n hn).slash_not_mem) hne
  rw [ofNames_eq_intercalate] at hsegments ⊢
  exact (List.cons.inj hsegments).2

/-- **The canonical paths** are the paths from names that are short enough. -/
theorem isCanonical_iff :
    IsCanonical path ↔
      ∃ ns, (∀ n ∈ ns, IsName n) ∧ path = ofNames ns ∧ path.length < capacity := by
  constructor
  · intro h
    have hlength : path.length < capacity := Nat.lt_succ_of_le h.length_le
    obtain ⟨rest, rfl⟩ : ∃ rest, path = slash :: rest := List.head?_eq_some_iff.1 h.from_root
    obtain hroot | hplain := h.plain
    · exact ⟨[], by simp, hroot, hlength⟩
    · refine ⟨Bytes.split slash rest, fun n hn => ?_, ?_, hlength⟩
      · exact isName_iff.2 ⟨Bytes.not_mem_of_mem_split hn, hplain n hn⟩
      · rw [ofNames_eq_intercalate, Bytes.intercalate_split]
  · rintro ⟨ns, hns, rfl, hlength⟩
    refine ⟨?_, Nat.le_of_lt_succ hlength, ?_, ?_, ?_⟩
    · rw [ofNames_eq_intercalate]
      exact Nat.succ_pos _
    · rw [ofNames_eq_intercalate]
      rfl
    · by_cases hne : ns = []
      · exact .inl (by rw [hne]; rfl)
      · rw [split_tail_ofNames hns hne]
        exact .inr fun n hn => (isName_iff.1 (hns n hn)).2
    · intro hlast
      obtain rfl | ⟨before, last, rfl⟩ := List.eq_nil_or_concat' ns
      · rfl
      · -- the last byte is that of a name
        have hname : IsName last := hns last (by simp)
        obtain ⟨b, hb, hslash⟩ := getLast?_rooted_concat false before hname.toIsStep
        exact absurd (Option.some.inj (hb.symm.trans hlast)) hslash

theorem isCanonical_of_full (h : Path.full directory path = .ok full) : IsCanonical full := by
  cases hwhole : anchored? directory path with
  | none =>
    rw [full_of_not_anchored hwhole] at h
    cases h
  | some whole =>
    rw [full_of_anchored hwhole] at h
    split_ifs at h with hlength
    obtain rfl := Except.ok.inj h
    exact isCanonical_iff.2 ⟨names whole, fun n => isName_of_mem_names, rfl, hlength⟩

/-- A canonical path is its own full path. The current directory is not looked at. -/
theorem IsCanonical.full_eq (h : IsCanonical full) (directory : Option Bytes) :
    Path.full directory full = .ok full := by
  obtain ⟨ns, hns, rfl, hlength⟩ := isCanonical_iff.1 h
  have hsteps : ∀ n ∈ ns, IsStep n := fun n hn => (hns n hn).toIsStep
  have hself : Path.full directory (rooted false ns) = .ok (rooted false ns) ↔ _ :=
    full_eq_self_iff hsteps
  exact hself.2 ⟨rfl, fun n hn => (hns n hn).descends, hlength⟩

end

/-- **Full paths are canonical, and they are fixed points** under every current directory, also when
there is none. -/
theorem full_is_fixed_point (directory : Option Bytes) (path full : Bytes)
    (h : Path.full directory path = .ok full) :
    IsCanonical full ∧ ∀ other, Path.full other full = .ok full := by
  have hcanonical : IsCanonical full := isCanonical_of_full h
  exact ⟨hcanonical, hcanonical.full_eq⟩

theorem full_is_fixed_point_detour :
    Path.full (some (Utf8.encode "/srv/apps")) (Utf8.encode ".././/sites/x/../hello/") =
        .ok (Utf8.encode "/srv/sites/hello") ∧
      IsCanonical (Utf8.encode "/srv/sites/hello") ∧
      Path.full none (Utf8.encode "/srv/sites/hello") = .ok (Utf8.encode "/srv/sites/hello") := by
  have hfull : Path.full (some (Utf8.encode "/srv/apps"))
      (Utf8.encode ".././/sites/x/../hello/") = .ok (Utf8.encode "/srv/sites/hello") := by
    decide +kernel
  obtain ⟨hcanonical, hfixed⟩ := full_is_fixed_point _ _ _ hfull
  exact ⟨hfull, hcanonical, hfixed none⟩

end Bootstrapper.Path
