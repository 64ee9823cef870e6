import Bootstrapper.Proofs.CommandLine.Written
import Bootstrapper.Proofs.Module.Library
import Bootstrapper.Proofs.Path.Directory
import Bootstrapper.Proofs.Path.Shown
import Bootstrapper.Proofs.Suite.Configuration
import Bootstrapper.Proofs.Suite.Launch
import Bootstrapper.Proofs.Suite.Trial

/-!
# The bootstrapper under test

What the suite sees when the program under test is the bootstrapper and the demo host is found
(`Genuine`). A launch of it comes to its end and leaves the files as they are (`Genuine.launch`).
With that host it either starts on a settled base, and then its report is read back, or it ends with
the status of a problem (`Genuine.launched`). Nothing that a scenario does to the files hides the
host or the program.
-/

namespace Bootstrapper.Suite

open Bytes (slash nul)
open DemoHost (callApplicationMain)
open Bootstrapper.Path (IsStep IsName IsRooted rooted)
open Scenario (hostArgument)

/-! ## Command lines -/

/-- A path from the root cannot be taken for an option. -/
theorem classify_of_isAbsolute {path : Bytes} (h : Path.isAbsolute path = true) :
    CommandLine.classify path = .word := by
  refine CommandLine.classify_word fun hhead => ?_
  rw [Path.isAbsolute, decide_eq_true_eq, hhead] at h
  cases h

section

variable {host base : Bytes}

theorem parse_host (hhost : Path.isAbsolute host = true) :
    CommandLine.parse [Utf8.encode "--host", host] =
      .ok ⟨false, none, some host, applicationMain, []⟩ := by
  have hflag : CommandLine.classify (Utf8.encode "--host") = .setting .host :=
    CommandLine.classify_setting .host
  have hne := Path.isEmpty_of_isAbsolute hhost
  simp [CommandLine.parse, CommandLine.Progress.read, hflag, CommandLine.Progress.start,
    CommandLine.Progress.settle, CommandLine.Progress.valueError?, classify_of_isAbsolute hhost,
    CommandLine.Progress.finish, CommandLine.Progress.accept, hne]

theorem parse_host_base (hhost : Path.isAbsolute host = true) (hbase : Path.isAbsolute base = true)
    (arguments : List String) :
    CommandLine.parse (Utf8.encode "--host" :: host :: Utf8.encode "--appbase" :: base ::
        Utf8.encode "--" :: arguments.map Utf8.encode) =
      .ok ⟨false, some base, some host, applicationMain, arguments⟩ := by
  have hflag : CommandLine.classify (Utf8.encode "--host") = .setting .host :=
    CommandLine.classify_setting .host
  have hflag' : CommandLine.classify (Utf8.encode "--appbase") = .setting .base :=
    CommandLine.classify_setting .base
  have hseparator : CommandLine.classify (Utf8.encode "--") = .separator :=
    CommandLine.classify_separator
  have hne := Path.isEmpty_of_isAbsolute hhost
  have hne' := Path.isEmpty_of_isAbsolute hbase
  have hdecoded := Utf8.mapM_decode?_encode arguments
  generalize arguments.map Utf8.encode = words at hdecoded ⊢
  simp [CommandLine.parse, CommandLine.Progress.read, hflag, hflag', hseparator,
    CommandLine.Progress.start, CommandLine.Progress.settle, CommandLine.Progress.valueError?,
    classify_of_isAbsolute hhost, classify_of_isAbsolute hbase, CommandLine.Progress.finish,
    CommandLine.Progress.accept, hne, hne', hdecoded]

end

/-! ## The program under test -/

/-- Where the program under test looks for its host. -/
def librariesOf (setting : Setting) (place : Place) : Module.Libraries where
  files := place.files
  directory := place.directory
  origin := Module.originOf setting.config.program
  system := Module.systemDirectory
  searched := Module.searchedDirectories (Trial.environment setting [])

/-- The program under test is the bootstrapper, it stands at a path that is text, and it finds the
demo host under the name that the scenarios give. -/
structure Genuine (setting : Setting) (stamp : String) (place : Place) : Prop where
  program : setting.program? setting.config.program =
    some (bootstrapper setting.config.program stamp)
  text : ∃ text, setting.config.program = Utf8.encode text
  file : place.files.lookup place.directory setting.config.program = .ok (.file .program)
  host : ∃ exports,
    (librariesOf setting place).load (Utf8.encode (hostArgument setting)) = .ok exports ∧
      exports applicationMain = some callApplicationMain

/-- The paths of a configuration: both programs at paths from names, and the work directory in an
absolute form. -/
structure Settled (config : Config) (doubled : Bool) (ss : List Bytes) : Prop where
  program : ∃ names, (∀ name ∈ names, IsName name) ∧ config.program = Path.ofNames names ∧
    nul ∉ config.program
  host : ∃ names, (∀ name ∈ names, IsName name) ∧ config.host = Path.ofNames names ∧
    nul ∉ config.host
  steps : ∀ s ∈ ss, IsStep s
  work : IsRooted config.workDirectory doubled ss

theorem exists_settled {bench : Bench} {options : Options} {config : Config}
    (hdirectory : IsCurrent bench.directory) (h : configure bench options = .ok config) :
    ∃ doubled ss, Settled config doubled ss := by
  obtain ⟨⟨_, hprogram⟩, ⟨_, hhost⟩, _, hwork⟩ := configure_eq_ok h
  obtain ⟨doubled, ss, hss, hrooted⟩ := Path.exists_isRooted_of_absolute
    (fun d hd => (hdirectory d hd).2) hwork
  exact ⟨doubled, ss, exists_names_of_realPath hdirectory hprogram,
    exists_names_of_realPath hdirectory hhost, hss, hrooted⟩

section

variable {setting : Setting} {stamp : String} {place : Place} {after : FileTree} {doubled : Bool}
  {ss : List Bytes}

theorem Settled.isAbsolute_program (h : Settled setting.config doubled ss) :
    Path.isAbsolute setting.config.program = true := by
  obtain ⟨names, -, hpath, -⟩ := h.program
  rw [hpath]
  exact (Path.isAbsolute_rooted : Path.isAbsolute (rooted false names) = true)

/-- The host argument is a path from the root without a zero byte. -/
theorem Settled.hostArgument (h : Settled setting.config doubled ss) :
    Path.isAbsolute (Utf8.encode (hostArgument setting)) = true ∧
      nul ∉ Utf8.encode (hostArgument setting) := by
  obtain ⟨names, -, hpath, hnul⟩ := h.host
  refine ⟨?_, mt (Utf8.mem_lossy_iff (by decide)).1 hnul⟩
  show Path.isAbsolute (Utf8.lossy setting.config.host) = true
  have hlossy : Utf8.lossy (rooted false names) = rooted false (names.map Utf8.lossy) :=
    Path.lossy_rooted false names
  rw [hpath]
  exact (congrArg Path.isAbsolute hlossy).trans Path.isAbsolute_rooted

/-- What a launch of the program under test finds. -/
def worldOf (setting : Setting) (environment : Variables) (place : Place) : Startup.World where
  environment
  directory := place.directory
  executable := .ok setting.config.program
  process := ""
  answers := []
  load := { librariesOf setting place with
    searched := Module.searchedDirectories environment }.load

/-- More files, another current directory and other variables do not hide the demo host. -/
theorem Genuine.load (h : Genuine setting stamp place) (hs : Settled setting.config doubled ss)
    (hfiles : place.files.Keeps after) (environment : Variables) (here : Option Bytes) :
    ∃ exports, (worldOf setting environment ⟨after, here⟩).load
        (Utf8.encode (Scenario.hostArgument setting)) = .ok exports ∧
      exports applicationMain = some callApplicationMain := by
  obtain ⟨exports, hload, hexport⟩ := h.host
  refine ⟨exports, ?_, hexport⟩
  have horigin : ({ librariesOf setting ⟨after, here⟩ with
      searched := Module.searchedDirectories environment } : Module.Libraries).origin =
    (librariesOf setting place).origin := rfl
  exact Module.Libraries.load_of_keeps horigin rfl hfiles hs.hostArgument.1 hs.hostArgument.2 hload

/-- More files and another current directory hide neither the program under test nor its host. -/
theorem Genuine.of_keeps (h : Genuine setting stamp place) (hs : Settled setting.config doubled ss)
    (hfiles : place.files.Keeps after) (here : Option Bytes) :
    Genuine setting stamp ⟨after, here⟩ where
  program := h.program
  text := h.text
  file := by
    rw [after.lookup_of_isAbsolute hs.isAbsolute_program here place.directory]
    exact hfiles.lookup h.file
  host := h.load hs hfiles (Trial.environment setting []) here

/-- **A launch of the bootstrapper** comes to its end where it is started, and changes no file. -/
theorem Genuine.launch (h : Genuine setting stamp place) (hs : Settled setting.config doubled ss)
    (arguments : List String) (pairs : List (String × String)) (directory : Option Bytes)
    {here : Option Bytes} (henter : directory.elim (.ok place.directory) place.enter = .ok here) :
    setting.launch place arguments pairs directory =
      .ok (Run.ofEnded (bootstrapper setting.config.program stamp
        ⟨arguments, Trial.environment setting pairs, here, place.files⟩).ended, place) :=
  Setting.launch_eq_ok arguments pairs (fun _ => hs.isAbsolute_program) henter
    (Setting.program_eq_ok h.file h.program)

/-- The program under test does not stand at the root, which is a directory. -/
theorem Genuine.names_ne_nil (h : Genuine setting stamp place) {names : List Bytes}
    (hpath : setting.config.program = Path.ofNames names) : names ≠ [] := by
  rintro rfl
  obtain ⟨found, hresolve, hnode⟩ := FileTree.lookup_eq_ok_iff.1 h.file
  rw [hpath] at hresolve
  have hroot : place.files.resolve place.directory (Path.ofNames []) =
      place.files.walk [] [[], []] := rfl
  rw [hroot] at hresolve
  obtain ⟨hdirectory, -⟩ := FileTree.walk_cons_iff.1 hresolve
  have hstays : place.files.walk [] [[], []] = .ok [] := FileTree.walk_stays hdirectory (by decide)
  obtain rfl : [] = found := Except.ok.inj (hstays.symm.trans hresolve)
  rw [FileTree.isDirectoryAt_iff.1 hdirectory] at hnode
  cases hnode

/-- The runtime directory is where the program under test stands. -/
theorem Genuine.runtime (h : Genuine setting stamp place) (hs : Settled setting.config doubled ss) :
    ∃ runtime name, Startup.runtimeDirectory (.ok setting.config.program) = .ok runtime ∧
      '\x00' ∉ runtime.toList ∧ runtime.toList.getLast? = some '/' ∧
      Path.fileName? setting.config.program = some name ∧
      Path.join (Utf8.encode runtime) name = setting.config.program := by
  obtain ⟨names, hnames, hpath, hnul⟩ := hs.program
  obtain ⟨text, htext⟩ := h.text
  obtain ⟨before, last, rfl⟩ :=
    (List.eq_nil_or_concat' names).resolve_left (h.names_ne_nil hpath)
  have hlast : IsName last := hnames last (by simp)
  obtain ⟨runtime, hdirectory, hslash, hruntime⟩ :=
    Path.directoryOf?_ofNames (htext.symm.trans hpath) hlast.slash_not_mem
  have hwhole : setting.config.program = Utf8.encode runtime ++ last := by
    rw [hpath, hruntime, Path.ofNames_concat, List.append_assoc, List.singleton_append]
  refine ⟨runtime, last, ?_, ?_, hslash, ?_, ?_⟩
  · simp only [Startup.runtimeDirectory, htext, Utf8.decode?_encode, hdirectory]
  · intro hmem
    refine hnul (hwhole ▸ List.mem_append_left _ ?_)
    exact (Utf8.ascii_mem_encode (by decide)).2 hmem
  · have hsteps : Path.steps setting.config.program = before ++ [last] := by
      rw [hpath]
      exact Path.steps_ofNames fun n hn => (hnames n hn).toIsStep
    simp [Path.fileName?, hsteps, hlast.descends]
  · have hrelative : Path.isAbsolute last = false := by
      refine decide_eq_false fun hhead => hlast.slash_not_mem ?_
      exact List.mem_of_head? hhead
    have hend : (Utf8.encode runtime).getLast? = some slash := by
      rw [hruntime, List.getLast?_concat]
    rw [Path.join, hrelative, Path.push, hend, hwhole]
    rfl

theorem exitCode_ofEnded {ended : Launch.Ended} {status : Nat}
    (h : ended.ending = .exited status) : (Run.ofEnded ended).exitCode = status := by
  rw [Run.ofEnded, h]

/-- **What is seen of a launch with the demo host.** If the start is settled, the report is read back
and the exit code is that of the host. If it is not, the exit code is that of a problem, and at most
what is wrong with the base is printed. -/
theorem Genuine.launched (h : Genuine setting stamp place)
    (hs : Settled setting.config doubled ss) (hfiles : place.files.Keeps after)
    {texts : List String} {arguments : CommandLine.Arguments} {runtime : String}
    (hparse : CommandLine.parse (texts.map Utf8.encode) = .ok arguments)
    (hdebug : arguments.debug = false)
    (hhost : arguments.host = some (Utf8.encode (Scenario.hostArgument setting)))
    (hentry : arguments.entryPoint = applicationMain)
    (hcount : arguments.arguments.length < 0x80000000)
    (hruntime : Startup.runtimeDirectory (.ok setting.config.program) = .ok runtime)
    (hnul : '\x00' ∉ runtime.toList) (environment : Variables) (here : Option Bytes) :
    let world := worldOf setting environment ⟨after, here⟩
    let run := Run.ofEnded
      (bootstrapper setting.config.program stamp ⟨texts, environment, here, after⟩).ended
    (∀ base, Startup.Settled world arguments base →
      (∃ report mark, readReport run.stdout = .ok report ∧
        Shows report base runtime arguments.arguments mark) ∧
      ∀ code, DemoHost.follow 0 arguments.arguments = ⟨code, none, .returned 0⟩ →
        run.exitCode = (observedExit (exitStatus code)).toInt.toNat) ∧
    ((¬ ∃ base, Startup.Settled world arguments base) →
      run.exitCode = 1 ∧ (run.stdout = "" ∨ ∃ requested failure,
        Startup.wantedBase arguments environment here = some requested ∧
        Path.full here requested = .error failure ∧ run.stdout = failure.message ++ "\n")) := by
  intro world run
  refine ⟨?_, ?_⟩
  · -- a settled start enters the host, whose report is all that is printed
    intro base hsettled
    obtain ⟨exports, hload, hexport⟩ := h.load hs hfiles environment here
    have hload : world.load (Startup.hostPath arguments.host runtime) = .ok exports := by
      rwa [hhost]
    rw [← hentry] at hexport
    have hlaunch := @launch_settled world (.piped stamp) _ _ _ _ _ hparse hdebug hruntime hnul hload
      hexport hsettled
    obtain ⟨hstdout, hending⟩ := hlaunch
    have hhands := hsettled.hands hnul hcount
    refine ⟨⟨_, _, ?_, shows_report hhands (markConsole environment)⟩, ?_⟩
    · -- no line stands before the report and nothing behind it
      have hstdout : run.stdout = String.join ([].map (· ++ "\n")) ++
          (reportText (.ofTexts base runtime arguments.arguments) (markConsole environment) ++ "\n")
          ++ "" := by
        rw [String.append_empty, List.map_nil, String.join_nil, String.empty_append]
        exact hstdout
      rw [hstdout]
      exact readReport_reportText _ _ _ (by simp)
    · -- the host has found the exit code zero, so what it left is what it was told
      intro code hfollow
      have hentered : Module.Result.ofEntered (callApplicationMain
          (.ofTexts base runtime arguments.arguments) (markConsole world.environment)) =
            .code code := by
        simp only [Module.Result.ofEntered, callApplicationMain, hhands.arguments, hhands.exitCode,
          hfollow]
        rfl
      rw [hentered] at hending
      exact exitCode_ofEnded hending
  · -- any other start ends before a module is asked for
    intro hnot
    have hlaunch := @launch_not_settled world (.piped stamp) _ _ _ hparse hdebug hruntime hnul hnot
    obtain ⟨hending, hstdout⟩ := hlaunch
    exact ⟨exitCode_ofEnded hending, hstdout⟩

end

end Bootstrapper.Suite
