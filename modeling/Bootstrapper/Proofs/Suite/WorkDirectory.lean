import Bootstrapper.Proofs.Suite.Genuine
import Bootstrapper.Proofs.Suite.Scenario

/-!
# Which work directories the suite can use

Two scenarios hold the base that comes back against one of their own, and neither spells it as the
bootstrapper does. The exit code scenario gives an absolute form, in which `..` and a second slash at
the start are kept, and asks for this very text; what comes back is the full path. The scenario with
the base from the environment looks for `..` in the text that comes back, and it finds that inside of
names as well.

* **`passes_exitCodeForwarding_iff_full`**: the one is passed exactly if the path of its directory is
  its own full path.
* **`Genuine.reported_detour`**: what comes back in the other is a full path, seen from the directory
  of the launch.
* **`expectations_hold_iff`**: what both ask of the work directory. A directory that is made without
  complaint and that both refuse is in `expectations_fail_dotted`.
-/

namespace Bootstrapper.Suite

open Bytes (dot slash nul)
open DemoHost (callApplicationMain)
open Bootstrapper.Path (IsStep IsName rooted folded)
open Scenario (hostArgument exitCodeForwarding baseFromEnvironment)

section

variable {setting : Setting} {stamp : String} {place : Place} {files after : FileTree}
  {stage : Stage} {directory : Option Bytes} {doubled : Bool} {ss : List Bytes}

/-! ## Directories below the work directory -/

/-- A directory below the work directory has one path, whether or not that one ends in a slash. -/
theorem Settled.join (hs : Settled setting.config doubled ss) {name : Bytes}
    (hname : Path.isAbsolute name = false) :
    Path.join setting.config.workDirectory name = rooted doubled (ss ++ [name]) := by
  rw [Path.join, hname]
  exact hs.work.push_eq hs.steps

theorem Settled.join_site (hs : Settled setting.config doubled ss) :
    Path.join setting.config.workDirectory (Utf8.encode "appbase_env/site") =
      rooted doubled (ss ++ [Utf8.encode "appbase_env", Utf8.encode "site"]) := by
  rw [hs.join (by decide), ← Path.rooted_slash]
  rfl

theorem Settled.steps_append (hs : Settled setting.config doubled ss) {names : List Bytes}
    (hnames : ∀ name ∈ names, IsName name) : ∀ s ∈ ss ++ names, IsStep s :=
  List.forall_mem_append.2 ⟨hs.steps, fun name hname => (hnames name hname).toIsStep⟩

/-- A directory that was made is at a path that the system takes. -/
theorem nul_not_mem_of_made {path : Bytes}
    (h : files.isDirectory directory path = true) : nul ∉ path := by
  obtain ⟨names, hresolve, -⟩ := FileTree.lookup_eq_ok_iff.1 (FileTree.isDirectory_iff.1 h)
  unfold FileTree.resolve at hresolve
  split at hresolve
  · cases hresolve
  · rename_i start hstart
    exact (FileTree.lookupStart_eq_ok hstart).1

/-- A directory that was made below the work directory stands where the names of its path lead. -/
theorem Settled.reached (hs : Settled setting.config doubled ss) {names : List Bytes}
    (hnames : ∀ name ∈ names, IsName name)
    (hmade : files.isDirectory directory (rooted doubled (ss ++ names)) = true) :
    files.resolve directory (rooted doubled (ss ++ names)) = .ok (folded ss ++ names) ∧
      files.Reached (folded ss ++ names) ∧ nul ∉ Path.ofNames (folded ss ++ names) := by
  have hsteps : Path.steps (rooted doubled (ss ++ names)) = ss ++ names :=
    Path.steps_rooted (hs.steps_append hnames)
  obtain ⟨found, hresolve, -⟩ := FileTree.lookup_eq_ok_iff.1 (FileTree.isDirectory_iff.1 hmade)
  obtain ⟨hreached, hfound⟩ := FileTree.reached_of_resolve Path.isAbsolute_rooted hresolve
  rw [Path.names_eq_folded, hsteps, Path.folded_append ss hnames] at hfound
  subst hfound
  refine ⟨hresolve, hreached, ?_⟩
  rw [nul_mem_ofNames_iff]
  rintro ⟨name, hname, hmem⟩
  -- every name is a segment of the path
  rw [← Path.folded_append ss hnames] at hname
  have hsegment := hsteps.symm ▸ Path.mem_of_mem_folded hname
  exact nul_not_mem_of_made hmade
    (Bytes.subset_of_mem_split (List.mem_of_mem_filter hsegment) hmem)

/-- The full path of a directory that was made below the work directory leads to it. -/
theorem Settled.sameFile (hs : Settled setting.config doubled ss) {names : List Bytes}
    (hnames : ∀ name ∈ names, IsName name) (hne : names ≠ [])
    (hmade : files.isDirectory directory (rooted doubled (ss ++ names)) = true)
    (hlength : (Path.ofNames (folded ss ++ names)).length < Path.capacity) :
    files.sameFile directory (Path.ofNames (folded ss ++ names))
      (rooted doubled (ss ++ names)) = true := by
  obtain ⟨hresolve, hreached, hnul⟩ := hs.reached hnames hmade
  rw [FileTree.sameFile, FileTree.realPath_of_resolve hresolve, if_neg (Nat.not_le.2 hlength),
    FileTree.realPath_ofNames hreached (by simp [hne]) hnul hlength]
  exact decide_eq_true rfl

/-! ## The exit code -/

/-- **What is seen of a launch with a base that is given.** The exit code is that of the host only if
the base has a full path, and then this is what is reported. -/
theorem Genuine.launched_given (h : Genuine setting stamp place)
    (hs : Settled setting.config doubled ss) (hfiles : place.files.Keeps after) {given : String}
    (hgiven : Path.isAbsolute (Utf8.encode given) = true) {runtime : String}
    (hruntime : Startup.runtimeDirectory (.ok setting.config.program) = .ok runtime)
    (hnul : '\x00' ∉ runtime.toList) (environment : Variables) (here : Option Bytes) :
    let run := Run.ofEnded (bootstrapper setting.config.program stamp ⟨["--host",
      hostArgument setting, "--appbase", given, "--", "--exit", "7", "extra"], environment, here,
      after⟩).ended
    (∀ base : String, Path.full here (Utf8.encode given) = .ok (Utf8.encode base) →
      '\x00' ∉ base.toList →
      run.exitCode = 7 ∧ ∃ report mark, readReport run.stdout = .ok report ∧
        Shows report base runtime ["--exit", "7", "extra"] mark) ∧
    (run.exitCode = 7 → ∃ base : String, Path.full here (Utf8.encode given) =
      .ok (Utf8.encode base) ∧ '\x00' ∉ base.toList) := by
  intro run
  let arguments : CommandLine.Arguments :=
    ⟨false, some (Utf8.encode given), some (Utf8.encode (hostArgument setting)), applicationMain,
      ["--exit", "7", "extra"]⟩
  have hparse : CommandLine.parse (["--host", hostArgument setting, "--appbase", given, "--",
      "--exit", "7", "extra"].map Utf8.encode) = .ok arguments :=
    parse_host_base hs.hostArgument.1 hgiven _
  have hfollow : DemoHost.follow 0 ["--exit", "7", "extra"] = ⟨7, none, .returned 0⟩ := by
    rfl
  obtain ⟨hsettled, hnot⟩ := h.launched hs hfiles hparse rfl rfl rfl (by simp [arguments]) hruntime
    hnul environment here
  refine ⟨?_, ?_⟩
  · intro base hfull hbase
    have hbegun : Startup.Settled (worldOf setting environment ⟨after, here⟩) arguments base :=
      ⟨⟨_, rfl, hfull⟩, hbase, by simp [arguments]⟩
    obtain ⟨hreport, hexit⟩ := hsettled base hbegun
    exact ⟨(hexit 7 hfollow).trans (by decide), hreport⟩
  · -- the exit code is that of a settled start only
    intro hexit
    obtain ⟨base, hbegun⟩ : ∃ base, Startup.Settled _ _ base := by
      by_contra hunsettled
      exact absurd (hexit.symm.trans (hnot hunsettled).1) (by decide)
    obtain ⟨_, hwanted, hfull⟩ := hbegun.full
    obtain rfl := Option.some.inj hwanted
    exact ⟨base, hfull, hbegun.base⟩

/-- **The exit code scenario** is passed exactly if the path of its directory is its own full
path. -/
theorem passes_exitCodeForwarding_iff_full (hs : Settled setting.config doubled ss)
    (h : Genuine setting stamp stage.toPlace) :
    let app := rooted doubled (ss ++ [Utf8.encode "exit_code_app"])
    Trial.Passes (exitCodeForwarding setting) stage ↔
      (stage.files.ensureAll stage.directory app).2 = .ok () ∧
        Path.full stage.directory (Utf8.lossy app) = .ok (Utf8.lossy app) := by
  intro app
  have happ : Path.join setting.config.workDirectory (Utf8.encode "exit_code_app") = app :=
    hs.join (by decide)
  have hsteps : ∀ s ∈ ss ++ [Utf8.encode "exit_code_app"], IsStep s :=
    hs.steps_append (by decide)
  have habsolute : Path.isAbsolute (Utf8.lossy app) = true := by
    rw [Path.lossy_rooted]
    exact Path.isAbsolute_rooted
  have hkeeps : stage.files.Keeps (stage.files.ensureAll stage.directory app).1 :=
    FileTree.ensureAll_keeps _ _ _
  obtain ⟨runtime, name, hruntime, hnul, hslash, hname, hjoin⟩ := h.runtime hs
  obtain ⟨hseen, hexit⟩ := h.launched_given hs hkeeps habsolute hruntime hnul
    (Trial.environment setting []) stage.directory
  refine passes_exitCodeForwarding_iff.trans ?_
  simp only [happ]
  refine and_congr_right fun hmade => ?_
  -- the launch comes to its end, and what was made is still there then
  rw [Setting.exists_launched_iff ((h.of_keeps hs hkeeps stage.directory).launch hs _ _ none rfl)]
  constructor
  · rintro ⟨hcode, report, hread, hreported, -⟩
    obtain ⟨base, hfull, hbase⟩ := hexit hcode
    obtain ⟨-, report', mark, hread', hshows⟩ := hseen base hfull hbase
    obtain rfl : report = report' := Except.ok.inj (hread.symm.trans hread')
    rw [hshows.base] at hreported
    obtain rfl : base = Utf8.decodeLossy app := Option.some.inj hreported
    exact hfull
  · intro hfull
    have hbase : '\x00' ∉ (Utf8.decodeLossy app).toList := by
      rw [← nul_mem_encode]
      exact mt (Utf8.mem_lossy_iff (by decide)).1
        (nul_not_mem_of_made (FileTree.isDirectory_ensureAll hsteps (by simp) hmade))
    obtain ⟨hcode, report, mark, hread, hshows⟩ := hseen _ hfull hbase
    refine ⟨hcode, report, hread, ?_, ?_, runtime, ?_, hslash, name, hname, ?_⟩
    · rw [hshows.base]
      rfl
    · rw [hshows.arguments]
      rfl
    · rw [hshows.runtime]
      rfl
    · rw [hjoin]
      exact FileTree.holds_of_lookup (hkeeps.lookup h.file)

/-- The path of its directory is its own full path exactly if that of the work directory is, apart
from its length. -/
theorem passes_exitCodeForwarding_iff_steps (hs : Settled setting.config doubled ss)
    (h : Genuine setting stamp stage.toPlace) :
    let app := rooted doubled (ss ++ [Utf8.encode "exit_code_app"])
    Trial.Passes (exitCodeForwarding setting) stage ↔
      (stage.files.ensureAll stage.directory app).2 = .ok () ∧ doubled = false ∧
        (∀ s ∈ ss, Path.climbs s = false) ∧ (Utf8.lossy app).length < Path.capacity := by
  intro app
  have hsteps : ∀ s ∈ (ss ++ [Utf8.encode "exit_code_app"]).map Utf8.lossy, IsStep s := by
    intro s hmem
    obtain ⟨step, hstep, rfl⟩ := List.mem_map.1 hmem
    exact (hs.steps_append (by decide) step hstep).lossy
  have hclimbs : (∀ s ∈ (ss ++ [Utf8.encode "exit_code_app"]).map Utf8.lossy,
      Path.climbs s = false) ↔ ∀ s ∈ ss, Path.climbs s = false := by
    have happ : Path.climbs (Utf8.encode "exit_code_app") = false := by decide
    simp [Path.climbs_lossy, or_imp, forall_and, happ]
  refine (passes_exitCodeForwarding_iff_full hs h).trans (and_congr_right fun _ => ?_)
  rw [Path.lossy_rooted, Path.full_eq_self_iff hsteps, hclimbs]

/-! ## The base from the environment -/

/-- What is told of a base that cannot be had is not read as a report. -/
theorem readReport_of_failure {failure : Failure} {here : Option Bytes}
    (h : Path.full here (Utf8.encode "other/../site") = .error failure) (report : Json) :
    readReport (failure.message ++ "\n") ≠ .ok report := by
  have hmark : Lines.firstAfter? DemoHost.reportMark (failure.message ++ "\n") = none := by
    obtain rfl | ⟨length, rfl⟩ := Path.full_eq_error h
    · rw [Utf8.decodeLossy_encode]
      decide +kernel
    · show Lines.firstAfter? DemoHost.reportMark
        ("Full path of application base is too long" ++ "\n") = none
      decide +kernel
  simp [readReport, hmark]

/-- **What comes back** of a launch from any directory is the full path of what was asked for. -/
theorem Genuine.reported_detour (h : Genuine setting stamp place)
    (hs : Settled setting.config doubled ss) (hfiles : place.files.Keeps after)
    (here : Option Bytes) (base : String) :
    let run := Run.ofEnded (bootstrapper setting.config.program stamp
      ⟨["--host", hostArgument setting], Trial.environment setting [(baseVariable, "other/../site")],
        here, after⟩).ended
    (∃ report, readReport run.stdout = .ok report ∧
        (report.field "application_base").string? = some base) ↔
      Path.full here (Utf8.encode "other/../site") = .ok (Utf8.encode base) ∧
        '\x00' ∉ base.toList := by
  intro run
  let environment := Trial.environment setting [(baseVariable, "other/../site")]
  let arguments : CommandLine.Arguments :=
    ⟨false, none, some (Utf8.encode (hostArgument setting)), applicationMain, []⟩
  have hparse : CommandLine.parse (["--host", hostArgument setting].map Utf8.encode) =
      .ok arguments :=
    parse_host hs.hostArgument.1
  have hwanted : Startup.wantedBase arguments environment here =
      some (Utf8.encode "other/../site") := by
    have hget : environment.get baseVariable = some (Utf8.encode "other/../site") :=
      Variables.get_set_self _ _ _
    simp only [Startup.wantedBase, arguments, hget]
    rw [if_pos (by decide)]
  obtain ⟨runtime, name, hruntime, hnul, -, -, -⟩ := h.runtime hs
  obtain ⟨hsettled, hnot⟩ := h.launched hs hfiles hparse rfl rfl rfl (by simp [arguments]) hruntime
    hnul environment here
  constructor
  · rintro ⟨report, hread, hbase⟩
    -- a report is read of a settled start only
    obtain ⟨base', hbegun⟩ : ∃ base, Startup.Settled _ _ base := by
      by_contra hunsettled
      obtain ⟨-, hempty | ⟨requested, failure, hrequested, hfailed, hstdout⟩⟩ := hnot hunsettled
      · rw [hempty] at hread
        cases hread
      · obtain rfl := Option.some.inj (hwanted.symm.trans hrequested)
        rw [hstdout] at hread
        exact readReport_of_failure hfailed report hread
    obtain ⟨⟨report', mark, hread', hshows⟩, -⟩ := hsettled base' hbegun
    obtain rfl : report = report' := Except.ok.inj (hread.symm.trans hread')
    rw [hshows.base] at hbase
    obtain rfl : base' = base := Option.some.inj hbase
    obtain ⟨requested, hrequested, hfull⟩ := hbegun.full
    obtain rfl := Option.some.inj (hwanted.symm.trans hrequested)
    exact ⟨hfull, hbegun.base⟩
  · rintro ⟨hfull, hbase⟩
    have hbegun : Startup.Settled (worldOf setting environment ⟨after, here⟩) arguments base :=
      ⟨⟨_, hwanted, hfull⟩, hbase, by simp [arguments]⟩
    obtain ⟨⟨report, mark, hread, hshows⟩, -⟩ := hsettled base hbegun
    exact ⟨report, hread, by rw [hshows.base]; rfl⟩

/-- The base that the environment names, seen from a directory below the work directory. If that
directory has no path that fits, the base has none either. -/
theorem Settled.full_detour (hs : Settled setting.config doubled ss) {name full : Bytes}
    (hname : IsName name)
    (hmade : files.isDirectory directory (rooted doubled (ss ++ [name])) = true) :
    Path.full (files.realPath directory (rooted doubled (ss ++ [name]))).toOption
        (Utf8.encode "other/../site") = .ok full ↔
      full = Path.ofNames (folded ss ++ [name, Utf8.encode "site"]) ∧
        full.length < Path.capacity := by
  obtain ⟨hresolve, hreached, -⟩ := hs.reached (List.forall_mem_singleton.2 hname) hmade
  have hnames : ∀ other ∈ folded ss ++ [name], IsName other := hreached.isName
  have hsteps : Path.steps (Utf8.encode "other/../site") =
      [Utf8.encode "other", [dot, dot], Utf8.encode "site"] := by
    rfl
  have hfolded : folded (folded ss ++ [name] ++ Path.steps (Utf8.encode "other/../site")) =
      folded ss ++ [name, Utf8.encode "site"] := by
    rw [hsteps, Path.folded_detour hnames (by decide) (by decide),
      List.append_assoc, List.singleton_append]
  have hlonger : (Path.ofNames (folded ss ++ [name])).length ≤
      (Path.ofNames (folded ss ++ [name, Utf8.encode "site"])).length := by
    rw [Path.ofNames_eq (by simp), Path.ofNames_eq (by simp)]
    simp
  rw [FileTree.realPath_of_resolve hresolve]
  split
  case isTrue hlong =>
    have herror : Path.full none (Utf8.encode "other/../site") =
        .error (.fullPath (Utf8.decodeLossy (Utf8.encode "other/../site"))) := rfl
    simp only [Except.toOption, herror, reduceCtorEq, false_iff]
    rintro ⟨rfl, hlength⟩
    omega
  case isFalse =>
    rw [Except.toOption, Path.full_relative hnames (by decide) (by decide), hfolded]
    split
    case isTrue hlength =>
      rw [Except.ok.injEq, eq_comm]
      exact ⟨fun he => ⟨he, he ▸ hlength⟩, And.left⟩
    case isFalse hlength =>
      simp only [reduceCtorEq, false_iff]
      rintro ⟨rfl, hfits⟩
      exact hlength hfits

/-- **The scenario with the base from the environment** is passed exactly if the base has a full path
that is text and fits, and no name of the work directory holds two dots in a row. -/
theorem passes_baseFromEnvironment_iff_names (hs : Settled setting.config doubled ss)
    (h : Genuine setting stamp stage.toPlace) :
    let made := stage.files.ensureAll stage.directory
      (rooted doubled (ss ++ [Utf8.encode "appbase_env"]))
    let made' := made.1.ensureAll stage.directory
      (rooted doubled (ss ++ [Utf8.encode "appbase_env", Utf8.encode "site"]))
    Trial.Passes (baseFromEnvironment setting) stage ↔
      made.2 = .ok () ∧ made'.2 = .ok () ∧
        ∃ base : String, Utf8.encode base = Path.ofNames
            (folded ss ++ [Utf8.encode "appbase_env", Utf8.encode "site"]) ∧
          (Utf8.encode base).length < Path.capacity ∧
          ∀ name ∈ folded ss, ¬ [dot, dot] <:+: name := by
  intro made made'
  have hdirectory : Path.join setting.config.workDirectory (Utf8.encode "appbase_env") =
      rooted doubled (ss ++ [Utf8.encode "appbase_env"]) :=
    hs.join (by decide)
  -- the names that the scenario adds are plain ones
  have hnames : ∀ name ∈ [Utf8.encode "appbase_env", Utf8.encode "site"],
      IsName name ∧ ¬ [dot, dot] <:+: name := by
    decide +kernel
  have hname : IsName (Utf8.encode "appbase_env") := (hnames _ List.mem_cons_self).1
  have hsite := hs.steps_append fun name hmem => (hnames name hmem).1
  have hjoin : Path.join (rooted doubled (ss ++ [Utf8.encode "appbase_env"])) (Utf8.encode "site") =
      rooted doubled (ss ++ [Utf8.encode "appbase_env", Utf8.encode "site"]) := by
    rw [Path.join, if_neg (by decide),
      Path.push_rooted (hs.steps_append (List.forall_mem_singleton.2 hname)), List.append_assoc,
      List.singleton_append]
  refine passes_baseFromEnvironment_iff.trans ?_
  simp only [hdirectory, hs.join_site, hjoin]
  refine and_congr_right fun hmade => and_congr_right fun hmade' => ?_
  have hkeeps : made.1.Keeps made'.1 := FileTree.ensureAll_keeps _ _ _
  -- the directory of the launch was made first, and making the other one below it keeps it
  have hthere : made'.1.isDirectory stage.directory
      (rooted doubled (ss ++ [Utf8.encode "appbase_env"])) = true := by
    have hmade := FileTree.isDirectory_ensureAll
      (hs.steps_append (List.forall_mem_singleton.2 hname)) (by simp) hmade
    exact FileTree.isDirectory_iff.2 (hkeeps.lookup (FileTree.isDirectory_iff.1 hmade))
  have hthere' := FileTree.isDirectory_ensureAll hsite (by simp) hmade'
  have hbefore : stage.files.Keeps made'.1 := (FileTree.ensureAll_keeps _ _ _).trans hkeeps
  -- so it can be entered, and what the launch leaves is what was made
  rw [Setting.exists_launched_iff ((h.of_keeps hs hbefore stage.directory).launch hs _ _ (some _)
    (Place.enter_eq_ok hthere))]
  refine exists_congr fun base => ?_
  -- the base that comes back is the full path of the detour, seen from that directory
  refine (and_congr_left' (h.reported_detour hs hbefore _ base)).trans ?_
  rw [hs.full_detour hname hthere]
  constructor
  · -- two dots in a name of the work directory are two dots in the base
    rintro ⟨⟨⟨hencoded, hlength⟩, -⟩, hdots, -⟩
    refine ⟨hencoded, hlength, fun name hmem hinfix => ?_⟩
    rw [(Path.mentions_dots_iff hencoded).2 ⟨name, List.mem_append_left _ hmem, hinfix⟩] at hdots
    cases hdots
  · rintro ⟨hencoded, hlength, hdots⟩
    refine ⟨⟨⟨hencoded, hlength⟩, ?_⟩, ?_, ?_⟩
    · -- the directory was made, so no zero byte stands in its path
      rw [← nul_mem_encode, hencoded]
      exact (hs.reached (fun name hmem => (hnames name hmem).1) hthere').2.2
    · rw [Bool.eq_false_iff, ne_eq, Path.mentions_dots_iff hencoded]
      rintro ⟨name, hmem, hinfix⟩
      obtain hmem | hmem := List.mem_append.1 hmem
      · exact hdots name hmem hinfix
      · exact (hnames name hmem).2 hinfix
    · -- the full path leads to the directory that was made under another spelling
      rw [hencoded] at hlength ⊢
      exact hs.sameFile (fun name hmem => (hnames name hmem).1) (by simp) hthere' hlength

end

/-! ## The main statement -/

/-- **What both scenarios ask of the work directory.** The path of the work directory must not start
with two slashes and must not hold the segment `..`, or else the first base comes back in another
spelling; and none of its names may hold two dots in a row, or else the second base counts as not
normalized. Apart from that the directories have to be made, and the paths have to fit.

The files are a tree without links, so the names of the work directory are those of the directory
that the second launch finds itself in. Behind a link, the second condition is about the names that
the link leads to, not about those that are spelled. -/
theorem expectations_hold_iff (bench : Bench) (options : Options) (config : Config) (stamp : String)
    (stage : Stage) (hconfig : configure bench options = .ok config)
    (hcurrent : IsCurrent bench.directory)
    (h : Genuine (bench.setting config) stamp stage.toPlace) :
    let work := config.workDirectory
    let app := Path.join work (Utf8.encode "exit_code_app")
    let made := stage.files.ensureAll stage.directory (Path.join work (Utf8.encode "appbase_env"))
    let made' := made.1.ensureAll stage.directory (Path.join work (Utf8.encode "appbase_env/site"))
    (Trial.Passes (exitCodeForwarding (bench.setting config)) stage ↔
      (stage.files.ensureAll stage.directory app).2 = .ok () ∧
        ¬ [slash, slash] <+: work ∧ [dot, dot] ∉ Path.segments work ∧
        (Utf8.lossy app).length < Path.capacity) ∧
    (Trial.Passes (baseFromEnvironment (bench.setting config)) stage ↔
      made.2 = .ok () ∧ made'.2 = .ok () ∧
        ∃ base : String, Utf8.encode base = Path.ofNames
            (Path.names work ++ [Utf8.encode "appbase_env", Utf8.encode "site"]) ∧
          (Utf8.encode base).length < Path.capacity ∧
          ∀ name ∈ Path.names work, ¬ [dot, dot] <:+: name) := by
  intro work app made made'
  obtain ⟨doubled, ss, hs⟩ := exists_settled hcurrent hconfig
  have hs : Settled (bench.setting config).config doubled ss := hs
  have hsteps : Path.steps work = ss := hs.work.steps_eq hs.steps
  constructor
  · have happ : app = rooted doubled (ss ++ [Utf8.encode "exit_code_app"]) := hs.join (by decide)
    have hdoubled : ¬ [slash, slash] <+: work ↔ doubled = false := by
      rw [← Bool.not_eq_true]
      exact not_congr (hs.work.doubled_iff hs.steps)
    have hclimbs : [dot, dot] ∉ Path.segments work ↔ ∀ s ∈ ss, Path.climbs s = false := by
      rw [← Path.dots_mem_steps_iff, hsteps]
      simp only [Path.climbs, decide_eq_false_iff_not]
      exact ⟨fun hnot s hmem he => hnot (he ▸ hmem), fun hall hmem => hall _ hmem rfl⟩
    rw [happ, hdoubled, hclimbs]
    exact passes_exitCodeForwarding_iff_steps hs h
  · have hdirectory : Path.join work (Utf8.encode "appbase_env") =
        rooted doubled (ss ++ [Utf8.encode "appbase_env"]) :=
      hs.join (by decide)
    have hsite : Path.join work (Utf8.encode "appbase_env/site") = _ := hs.join_site
    have hnames : Path.names work = folded ss := by
      rw [Path.names_eq_folded, hsteps]
    simp only [made, made', hdirectory, hsite, hnames]
    exact passes_baseFromEnvironment_iff_names hs h

/-- The bootstrapper and the demo host in one directory, and nothing else. -/
def plainBench : Bench where
  environment := Variables.empty
  directory := some (Utf8.encode "/")
  files := .ofList [
    ([Utf8.encode "r"], .directory),
    ([Utf8.encode "r", Utf8.encode "dnx"], .file .program),
    ([Utf8.encode "r", Utf8.encode "host.so"], .file (.library DemoHost.exports))]
  program? := fun path =>
    if path = Utf8.encode "/r/dnx" then some (bootstrapper path "") else none

def plainOptions (work : String) : Options :=
  ⟨some "/r/dnx", some "/r/host.so", some work⟩

def plainConfig (work : String) : Config :=
  ⟨Utf8.encode "/r/dnx", Utf8.encode "/r/host.so", Utf8.encode work⟩

theorem isCurrent_plain : IsCurrent plainBench.directory := by
  rintro path ⟨⟩
  exact ⟨by decide, [], by simp, rfl⟩

theorem genuine_plain {work : String}
    (hconfig : configure plainBench (plainOptions work) = .ok (plainConfig work))
    (hfree : plainBench.files.holds plainBench.directory (Utf8.encode work) = false) :
    Genuine (plainBench.setting (plainConfig work)) ""
      (clean plainBench (Utf8.encode work)).1 := by
  have hhost : Utf8.encode (hostArgument (plainBench.setting (plainConfig work))) =
      Utf8.encode "/r/host.so" :=
    Utf8.lossy_encode "/r/host.so"
  have hload : (librariesOf (plainBench.setting (plainConfig work)) plainBench.toPlace).load
      (Utf8.encode "/r/host.so") = .ok (Module.systemExports DemoHost.exports) := rfl
  have hexport : Module.systemExports DemoHost.exports applicationMain =
      some callApplicationMain := by rfl
  have hfile : plainBench.files.lookup plainBench.directory (Utf8.encode "/r/dnx") =
      .ok (.file .program) := rfl
  have h : Genuine (plainBench.setting (plainConfig work)) "" plainBench.toPlace :=
    ⟨rfl, ⟨"/r/dnx", rfl⟩, hfile, _, hhost ▸ hload, hexport⟩
  obtain ⟨doubled, ss, hs⟩ := exists_settled isCurrent_plain hconfig
  exact h.of_keeps hs (clean_keeps hfree).1 _

/-- A plain work directory suits both scenarios. -/
theorem expectations_hold_plain :
    let setting := plainBench.setting (plainConfig "/w")
    let stage : Stage := ⟨(clean plainBench (Utf8.encode "/w")).1, ""⟩
    configure plainBench (plainOptions "/w") = .ok (plainConfig "/w") ∧
      IsCurrent plainBench.directory ∧ Genuine setting "" stage.toPlace ∧
      Trial.Passes (exitCodeForwarding setting) stage ∧
      Trial.Passes (baseFromEnvironment setting) stage := by
  intro setting stage
  have hconfig : configure plainBench (plainOptions "/w") = .ok (plainConfig "/w") := by
    decide +kernel
  have hgenuine : Genuine setting "" stage.toPlace := genuine_plain hconfig (by decide +kernel)
  have h := expectations_hold_iff plainBench (plainOptions "/w") (plainConfig "/w") "" stage hconfig
    isCurrent_plain hgenuine
  have hcode : Trial.Passes (exitCodeForwarding setting) stage :=
    h.1.2 ⟨by decide +kernel, by decide +kernel, by decide +kernel, by decide +kernel⟩
  have hbase : Trial.Passes (baseFromEnvironment setting) stage :=
    h.2.2 ⟨by decide +kernel, by decide +kernel, "/w/appbase_env/site", by decide +kernel,
      by decide +kernel, by decide +kernel⟩
  exact ⟨hconfig, isCurrent_plain, hgenuine, hcode, hbase⟩

/-- **A work directory that both scenarios refuse.** It is made without complaint. The base that comes
back in the first scenario is another spelling of what was given, and that of the second is its own
full path. -/
theorem expectations_fail_dotted :
    let setting := plainBench.setting (plainConfig "/w/x/../a..b")
    let cleaned := clean plainBench (Utf8.encode "/w/x/../a..b")
    let stage : Stage := ⟨cleaned.1, ""⟩
    configure plainBench (plainOptions "/w/x/../a..b") = .ok (plainConfig "/w/x/../a..b") ∧
      cleaned.2 = ("", true) ∧ Genuine setting "" stage.toPlace ∧
      ((exitCodeForwarding setting).outcome stage).1 =
        .error "Unexpected application_base: \"/w/a..b/exit_code_app\"" ∧
      ((baseFromEnvironment setting).outcome stage).1 =
        .error "application_base was not normalized: /w/a..b/appbase_env/site" ∧
      Path.full none (Utf8.encode "/w/a..b/appbase_env/site") =
        .ok (Utf8.encode "/w/a..b/appbase_env/site") ∧
      ¬ Trial.Passes (exitCodeForwarding setting) stage ∧
      ¬ Trial.Passes (baseFromEnvironment setting) stage := by
  intro setting cleaned stage
  have hconfig : configure plainBench (plainOptions "/w/x/../a..b") =
      .ok (plainConfig "/w/x/../a..b") := by
    decide +kernel
  have hcleaned : cleaned.2 = ("", true) := by decide +kernel
  have hgenuine : Genuine setting "" stage.toPlace := genuine_plain hconfig (by decide +kernel)
  have hcode : ((exitCodeForwarding setting).outcome stage).1 =
      .error "Unexpected application_base: \"/w/a..b/exit_code_app\"" := by
    decide +kernel
  have hbase : ((baseFromEnvironment setting).outcome stage).1 =
      .error "application_base was not normalized: /w/a..b/appbase_env/site" := by
    decide +kernel
  exact ⟨hconfig, hcleaned, hgenuine, hcode, hbase, by decide +kernel,
    Trial.not_passes_of_error hcode, Trial.not_passes_of_error hbase⟩

end Bootstrapper.Suite
