import Bootstrapper.CommandLine.Parser
import Bootstrapper.Proofs.Module.Library
import Bootstrapper.Proofs.Path.Directory
import Bootstrapper.Proofs.Startup.DataFlow

/-!
# The search path and the host

The system's loader looks for a name in directories that the environment names exactly if the name
has no slash. This module says when a start depends on that:

* **`load_withSearched`**: for a name with a slash the search path makes no difference, and
  **`pathOf_of_bare`**: a name without one leads to the first directory of the path that has it.
* **`exists_bare_asked_iff`**: a start hands over a name without a slash exactly if it gets as far
  as its host and the host was given on the command line without one. The host in the runtime
  directory is always named with its path (`slash_mem_hostPath_iff`).
* **`run_withSearched`**: all other starts come out the same whatever the search path is.
-/

namespace Bootstrapper

open Bytes (slash)

/-! ## Names and the search path -/

namespace Module.Libraries

variable {libraries : Libraries} {name : Bytes}

/-- The same libraries, searched for in other directories. -/
def withSearched (libraries : Libraries) (searched : List Bytes) : Libraries :=
  { libraries with searched }

theorem expandWith_withSearched (searched : List Bytes) (fuel : Nat) (name : Bytes) :
    (libraries.withSearched searched).expandWith fuel name = libraries.expandWith fuel name := by
  have horigin : (libraries.withSearched searched).origin = libraries.origin := rfl
  exact expandWith_congr horigin rfl fuel name

/-- A name with a slash stands for one path, on which the search path has no bearing. -/
theorem pathsOf_withSearched (searched : List Bytes) (h : slash ∈ name) :
    (libraries.withSearched searched).pathsOf name = libraries.pathsOf name := by
  have hslash : name.contains slash = true := List.contains_iff_mem.2 h
  unfold pathsOf
  rw [if_pos hslash, if_pos hslash, expand, expand, expandWith_withSearched]

/-- What a name is taken for by the system has a slash if it has one. -/
theorem slash_mem_of_systemName {taken : Bytes} (h : systemName name = .ok taken)
    (hslash : slash ∈ name) : slash ∈ taken := by
  unfold systemName at h
  split at h
  next hlast =>
    split at h
    · cases h
    · obtain rfl : name.dropLast = taken := Except.ok.inj h
      -- only the zero byte at the end is dropped
      obtain ⟨before, rfl⟩ := List.getLast?_eq_some_iff.1 hlast
      have hne : slash ≠ Bytes.nul := by decide
      simpa [hne] using hslash
  next =>
    split at h
    · cases h
    · obtain rfl : name = taken := Except.ok.inj h
      exact hslash

/-- **A name with a slash is loaded without the search path.** -/
theorem load_withSearched (searched : List Bytes) (h : slash ∈ name) :
    (libraries.withSearched searched).load name = libraries.load name := by
  unfold load
  cases hname : systemName name with
  | error reason => rfl
  | ok taken =>
    have hpaths : (libraries.withSearched searched).pathsOf taken = libraries.pathsOf taken :=
      pathsOf_withSearched searched (slash_mem_of_systemName hname h)
    have hpath : (libraries.withSearched searched).pathOf taken = libraries.pathOf taken := by
      unfold pathOf
      rw [hpaths]
      rfl
    simp only [openFile, hpath]
    rfl

/-- **A name without a slash leads to the first directory of the search path** in which there is
something of that name. -/
theorem pathOf_of_bare {before after : List Bytes} {found : Bytes} (h : slash ∉ name)
    (hsearched : libraries.searched = before ++ found :: after)
    (hbefore : ∀ directory ∈ before,
      libraries.files.holds libraries.directory (libraries.searchStart directory ++ name) = false)
    (hfound :
      libraries.files.holds libraries.directory (libraries.searchStart found ++ name) = true) :
    libraries.pathOf name = libraries.searchStart found ++ name := by
  have hslash : ¬ name.contains slash = true := fun hc => h (List.contains_iff_mem.1 hc)
  have hfirst : (libraries.pathsOf name).find? (libraries.files.holds libraries.directory) =
      some (libraries.searchStart found ++ name) := by
    unfold pathsOf
    rw [if_neg hslash, hsearched, List.map_append, List.map_cons, List.append_assoc,
      List.find?_append, List.find?_eq_none.2 ?_, Option.none_or, List.cons_append,
      List.find?_cons_of_pos hfound]
    intro path hpath
    obtain ⟨directory, hmem, rfl⟩ := List.mem_map.1 hpath
    rw [hbefore directory hmem]
    exact Bool.false_ne_true
  simp only [pathOf, hfirst, Option.getD_some]

end Module.Libraries

namespace Startup

variable {world : World} {arguments : CommandLine.Arguments} {runtime : String}

/-! ## What a start asks for -/

theorem slash_mem_of_runtimeDirectory {executable : Except IoError Bytes}
    (h : runtimeDirectory executable = .ok runtime) : '/' ∈ runtime.toList := by
  obtain ⟨path, -, hdirectory⟩ := runtimeDirectory_eq_ok_iff.1 h
  exact (Path.directoryOf?_eq_some_iff.1 hdirectory).slash_mem

/-- **The host of a start has a slash** unless the command line names one that has none: the host in
the runtime directory is named with that directory. -/
theorem slash_mem_hostPath_iff {executable : Except IoError Bytes}
    (hruntime : runtimeDirectory executable = .ok runtime) (explicit : Option Bytes) :
    slash ∈ hostPath explicit runtime ↔ ∀ host, explicit = some host → slash ∈ host := by
  cases explicit with
  | some host => simp [hostPath]
  | none =>
    have hmem : '/' ∈ runtime.toList := slash_mem_of_runtimeDirectory hruntime
    have hencoded : slash ∈ Utf8.encode runtime := (Utf8.ascii_mem_encode (by decide)).2 hmem
    simp [hostPath, hencoded]

/-! ## Starts that do not depend on the search path -/

/-- A start depends on its loader only through what that makes of the host. -/
theorem run_congr_load {load : Loader} (tracing : Bool)
    (h : ∀ preparation,
      (prepare world (markConsole world.environment) arguments).2 = .ok preparation →
        load preparation.host = world.load preparation.host) :
    run { world with load } tracing arguments = run world tracing arguments := by
  have hprepare : prepare { world with load } (markConsole world.environment) arguments =
      prepare world (markConsole world.environment) arguments := rfl
  unfold run
  simp only [hprepare]
  rcases hp : prepare world (markConsole world.environment) arguments with ⟨told, result⟩
  cases result with
  | error problem => rfl
  | ok preparation =>
    have hload : load preparation.host = world.load preparation.host :=
      h preparation (by rw [hp])
    simp only [Module.call, hload]

/-- **A start whose host is not bare does not depend on the search path.** -/
theorem run_withSearched {libraries : Module.Libraries} (tracing : Bool)
    (hload : world.load = libraries.load) (searched : List Bytes)
    (h : ∀ host, arguments.host = some host → slash ∈ host) :
    run { world with load := (libraries.withSearched searched).load } tracing arguments =
      run world tracing arguments := by
  refine run_congr_load tracing fun preparation hprepared => ?_
  obtain ⟨runtime, hruntime, hhost⟩ := host_of_prepare hprepared
  have hslash : slash ∈ preparation.host := by
    rw [hhost]
    exact (slash_mem_hostPath_iff hruntime arguments.host).2 h
  rw [hload]
  exact Module.Libraries.load_withSearched searched hslash

/-! ## Starts that do -/

/-- **When a start asks for a bare name**: exactly if it is settled and the command line names a
host without a slash. -/
theorem exists_bare_asked_iff (world : World) (tracing : Bool) (arguments : CommandLine.Arguments)
    (runtime : String) (hruntime : runtimeDirectory world.executable = .ok runtime)
    (hnul : '\x00' ∉ runtime.toList) :
    (∃ name ∈ Event.asked (run world tracing arguments).events, slash ∉ name) ↔
      (∃ base, Settled world arguments base) ∧
        ∃ host, arguments.host = some host ∧ slash ∉ host := by
  have hhost : slash ∉ hostPath arguments.host runtime ↔
      ∃ host, arguments.host = some host ∧ slash ∉ host := by
    rw [slash_mem_hostPath_iff hruntime]
    simp only [Classical.not_forall, exists_prop]
  by_cases hsettled : ∃ base, Settled world arguments base
  · obtain ⟨base, hbase⟩ := hsettled
    obtain ⟨before, after, hrun⟩ := run_of_settled tracing hruntime hnul hbase
    have hasked : Event.asked (run world tracing arguments).events =
        [hostPath arguments.host runtime] := by
      simp only [hrun, Event.asked_append, Event.asked_map_output, Module.asked_call,
        List.nil_append, List.append_nil]
    rw [hasked, ← hhost]
    constructor
    · rintro ⟨name, hname, hbare⟩
      obtain rfl := List.mem_singleton.1 hname
      exact ⟨⟨base, hbase⟩, hbare⟩
    · rintro ⟨-, hbare⟩
      exact ⟨_, List.mem_singleton.2 rfl, hbare⟩
  · obtain ⟨outputs, problem, hrun⟩ := run_of_not_settled tracing hruntime hnul hsettled
    have hasked : Event.asked (run world tracing arguments).events = [] := by
      simp only [hrun, Event.asked_map_output]
    rw [hasked]
    constructor
    · rintro ⟨name, hname, -⟩
      cases hname
    · rintro ⟨h, -⟩
      exact absurd h hsettled

/-- The system's libraries, and a directory searched before them into which somebody has put a
library of a well-known name. -/
def planted : Module.Libraries where
  files := .ofList [([Utf8.encode "tmp"], .directory),
    ([Utf8.encode "tmp", Utf8.encode "libm.so.6"], .file (.library fun _ =>
      some fun _ environment => ⟨7, environment, [.printed "planted\n"], .returned 0⟩))]
  directory := some (Utf8.encode "/")
  origin := Utf8.encode "/opt/dnx"
  system := Module.systemDirectory
  searched := [Utf8.encode "/tmp"]

/-- A start where these libraries are found. -/
def plantedWorld : World where
  environment := .empty
  directory := some (Utf8.encode "/")
  executable := .ok (Utf8.encode "/opt/dnx/dnx")
  process := "7"
  answers := []
  load := planted.load

theorem exists_bare_asked_planted :
    ∃ name ∈ Event.asked (run plantedWorld false
      ⟨false, none, some (Utf8.encode "libm.so.6"), applicationMain, []⟩).events,
      slash ∉ name := by
  refine (exists_bare_asked_iff plantedWorld false _ "/opt/dnx/" (by rfl)
    (by decide +kernel)).2 ⟨⟨"/", ⟨_, rfl, by rfl⟩, by decide +kernel, by decide⟩, ?_⟩
  exact ⟨_, rfl, by decide +kernel⟩

/-- **A bare host is searched for.** A command line that parses makes a start hand over a name
without a slash, and what somebody has put into the search path under that name is run. -/
theorem bare_host_runs_planted :
    let arguments : CommandLine.Arguments :=
      ⟨false, none, some (Utf8.encode "libm.so.6"), applicationMain, []⟩
    let outcome := run plantedWorld false arguments
    CommandLine.parse [Utf8.encode "--host", Utf8.encode "libm.so.6"] = .ok arguments ∧
      runtimeDirectory plantedWorld.executable = .ok "/opt/dnx/" ∧
      Event.asked outcome.events = [Utf8.encode "libm.so.6"] ∧
      slash ∉ Utf8.encode "libm.so.6" ∧
      .output (.printed "planted\n") ∈ outcome.events ∧ outcome.ending = .code 7 := by
  intro arguments outcome
  have hparse : CommandLine.parse [Utf8.encode "--host", Utf8.encode "libm.so.6"] =
      .ok arguments := by rfl
  have hbare : slash ∉ Utf8.encode "libm.so.6" := by decide +kernel
  have hasked : Event.asked outcome.events = [Utf8.encode "libm.so.6"] := by decide +kernel
  have hprinted : .output (.printed "planted\n") ∈ outcome.events := by decide +kernel
  have hending : outcome.ending = .code 7 := by decide +kernel
  exact ⟨hparse, by rfl, hasked, hbare, hprinted, hending⟩

end Startup

end Bootstrapper
