import Bootstrapper.Proofs.Suite.Trial
import Bootstrapper.Suite.Run

/-!
# What the suite is configured with

Both programs are settled to real paths, which are paths from names, and the work directory to its
absolute form. The current directory is as the system gives it (`IsCurrent`); nothing else has to
hold for this. A work directory that is not there yet is made without a loss (`clean_keeps`).
-/

namespace Bootstrapper.Suite

open Bytes (slash nul)
open Bootstrapper.Path (IsName)

/-- A current directory as the system gives it: a path from names, without a zero byte. -/
def IsCurrent (directory : Option Bytes) : Prop :=
  ∀ path, directory = some path →
    nul ∉ path ∧ ∃ names, (∀ name ∈ names, IsName name) ∧ path = Path.ofNames names

theorem nul_mem_ofNames_iff {names : List Bytes} :
    nul ∈ Path.ofNames names ↔ ∃ name ∈ names, nul ∈ name := by
  have hslash : nul ≠ slash := by decide
  cases names with
  | nil => simp [Path.ofNames, hslash]
  | cons name names => simp [Path.ofNames, hslash]

/-- A real path is a path from names. -/
theorem exists_names_of_realPath {tree : FileTree} {directory : Option Bytes} {path real : Bytes}
    (hdirectory : IsCurrent directory) (h : tree.realPath directory path = .ok real) :
    ∃ names, (∀ name ∈ names, IsName name) ∧ real = Path.ofNames names ∧ nul ∉ real := by
  unfold FileTree.realPath at h
  split at h
  · cases h
  rename_i start hstart
  split at h
  · cases h
  rename_i names hwalk
  dsimp only at h
  split at h
  · cases h
  obtain rfl := Except.ok.inj h
  have hnul : nul ∉ path ∧ (∀ name ∈ start, IsName name) ∧ ∀ name ∈ start, nul ∉ name := by
    unfold FileTree.startOf at hstart
    split_ifs at hstart with hnul hempty habsolute
    · obtain rfl := Except.ok.inj hstart
      exact ⟨by simpa using hnul, by simp, by simp⟩
    · cases hd : directory with
      | none => rw [hd] at hstart; cases hstart
      | some d =>
        rw [hd] at hstart
        obtain ⟨hfree, before, hbefore, rfl⟩ := hdirectory d hd
        obtain rfl := Except.ok.inj hstart
        rw [Path.names_ofNames hbefore]
        exact ⟨by simpa using hnul, hbefore,
          fun name hname hmem => hfree (nul_mem_ofNames_iff.2 ⟨name, hname, hmem⟩)⟩
  obtain ⟨hpath, hnames, hfree⟩ := hnul
  -- the names are among those of the current directory and the segments of the path
  have hfolded : names = Path.folded (start ++ Path.segments path) := by
    rw [FileTree.names_of_walk hwalk, Path.folded, List.foldl_append,
      Path.foldl_fold_names hnames, List.append_nil]
  have hslash : ∀ segment ∈ start ++ Path.segments path, slash ∉ segment :=
    List.forall_mem_append.2
      ⟨fun name hname => (hnames name hname).slash_not_mem, fun _ => Bytes.not_mem_of_mem_split⟩
  refine ⟨names, fun name hname => Path.isName_of_mem_folded hslash (hfolded ▸ hname), rfl, ?_⟩
  rw [nul_mem_ofNames_iff]
  rintro ⟨name, hname, hmem⟩
  obtain hstart | hsegment := List.mem_append.1 (Path.mem_of_mem_folded (hfolded ▸ hname))
  · exact hfree name hstart hmem
  · exact hpath (Bytes.subset_of_mem_split hsegment hmem)

theorem configure_eq_ok {bench : Bench} {options : Options} {config : Config}
    (h : configure bench options = .ok config) :
    (∃ path, bench.files.realPath bench.directory path = .ok config.program) ∧
      (∃ path, bench.files.realPath bench.directory path = .ok config.host) ∧
      ∃ path, Path.absolute bench.directory path = .ok config.workDirectory := by
  have hmapped : ∀ {refuse : IoError → Refusal} {found : Except IoError Bytes} {path : Bytes},
      found.mapError refuse = .ok path → found = .ok path := by
    intro refuse found path h
    cases found with
    | error error => cases h
    | ok found => cases h; rfl
  unfold configure settle at h
  obtain ⟨program, -, h⟩ := bind_eq_ok_iff.1 h
  obtain ⟨host, -, h⟩ := bind_eq_ok_iff.1 h
  obtain ⟨work, hwork, h⟩ := bind_eq_ok_iff.1 h
  -- both were found
  obtain ⟨_, -, h⟩ := bind_eq_ok_iff.1 h
  obtain ⟨_, -, h⟩ := bind_eq_ok_iff.1 h
  obtain ⟨real, hreal, h⟩ := bind_eq_ok_iff.1 h
  obtain ⟨real', hreal', h⟩ := bind_eq_ok_iff.1 h
  obtain rfl := Except.ok.inj h
  exact ⟨⟨_, hmapped hreal⟩, ⟨_, hmapped hreal'⟩, ⟨_, hmapped hwork⟩⟩

/-- A work directory that is not there yet is made where the suite is. -/
theorem clean_keeps {bench : Bench} {work : Bytes}
    (h : bench.files.holds bench.directory work = false) :
    bench.files.Keeps (clean bench work).1.files ∧
      (clean bench work).1.directory = bench.directory := by
  have hmade := FileTree.ensureAll_keeps bench.files bench.directory work
  simp only [clean, removeOld, h, Bool.false_eq_true, if_false]
  split <;> exact ⟨hmade, rfl⟩

end Bootstrapper.Suite
