import Bootstrapper.Proofs.Environment.Contract
import Bootstrapper.Proofs.Suite.WorkDirectory

/-!
# The suite's own environment

Four variables decide what the program under test does, and the suite may itself have been started
with any of them. No launch inherits them: it begins with the environment of the suite, then these
variables are taken out, and last it is given its own. So two suites whose environments differ in
these variables alone launch the same programs in the same way, scenario by scenario, whatever the
programs do to the files.

* **`get_environment`**: what a name holds in a launch.
* **`Alike`**: two settings that share their configuration and all their launches. Settings that
  differ in these variables alone are (`alike_setting`).
* **`Alike.play_eq`** and **`playAll_congr`**: such settings play every scenario alike, and so every
  course of scenarios.
* **`run_isolated`** puts these together.
-/

namespace Bootstrapper.Suite

theorem get_foldl_unset (names : List String) (vars : Variables) (name : String) :
    (names.foldl Variables.unset vars).get name =
      if name ∈ names then none else vars.get name := by
  induction names generalizing vars with
  | nil => rfl
  | cons first names ih =>
    rw [List.foldl_cons, ih]
    by_cases h : name = first <;> simp [Variables.unset, h]

/-- **What a name holds in a launch**: what the launch gives it, else what it holds in the suite's
own environment, unless it is controlled. -/
theorem get_environment (setting : Setting) (pairs : List (String × String)) (name : String) :
    (Trial.environment setting pairs).get name =
      (lastGiven name (pairs.map fun pair => (pair.1, Utf8.encode pair.2))).or
        (if name ∈ controlled then none else setting.environment.get name) := by
  rw [← get_foldl_unset, ← get_foldl_set, List.foldl_map]
  rfl

/-! ## Settings that no launch tells apart -/

/-- Two settings with one configuration whose launches come to the same in every place. -/
structure Alike (first second : Setting) : Prop where
  config : first.config = second.config
  launch : ∀ place arguments pairs directory,
    first.launch place arguments pairs directory = second.launch place arguments pairs directory

section

variable {first second : Setting}

/-- A launch depends on the environment of the suite only through that of the launch. -/
theorem alike_of_environment_eq (hconfig : first.config = second.config)
    (hprogram : first.program? = second.program?)
    (h : ∀ pairs, Trial.environment first pairs = Trial.environment second pairs) :
    Alike first second := by
  refine ⟨hconfig, fun place arguments pairs directory => ?_⟩
  have hstart : first.start place arguments pairs directory =
      second.start place arguments pairs directory := by
    simp only [Setting.start, Setting.program, hconfig, hprogram, h]
  rw [Setting.launch, Setting.launch, hconfig, hstart]

theorem Alike.launch_eq (h : Alike first second) : Trial.launch first = Trial.launch second := by
  funext arguments pairs directory
  simp only [Trial.launch, h.launch]

theorem Alike.makeDirectory_eq (h : Alike first second) :
    Trial.makeDirectory first = Trial.makeDirectory second := by
  funext name
  simp only [Trial.makeDirectory, h.config]

theorem Alike.hostArgument_eq (h : Alike first second) :
    Scenario.hostArgument first = Scenario.hostArgument second := by
  rw [Scenario.hostArgument, Scenario.hostArgument, h.config]

theorem Alike.quietLaunch_eq (h : Alike first second) :
    Scenario.quietLaunch first = Scenario.quietLaunch second := by
  funext value
  simp only [Scenario.quietLaunch, Scenario.traceArguments, h.launch_eq, h.hostArgument_eq]

/-- **Every scenario is played alike.** All that it takes from the setting are the paths of the
configuration and launches. -/
theorem Alike.play_eq (h : Alike first second) :
    ∀ scenario ∈ Scenario.all, scenario.play first = scenario.play second := by
  open Scenario in
  simp only [all, List.forall_mem_cons, exitCodeForwarding, failureStatusForwarding,
    failureStatusLowByte, lowByteLaunch, missingHost, missingExport, traceEvents, tracedLaunch,
    traceArguments, consoleHostDefault, consoleLaunch, baseFromEnvironment, baseFallsBack,
    hostFault, h.config, h.launch_eq, h.makeDirectory_eq, h.hostArgument_eq, h.quietLaunch_eq,
    List.not_mem_nil, false_implies, implies_true, and_true]

/-- Scenarios that are played alike come to the same tally and leave the same stage. -/
theorem playAll_congr {scenarios : List Scenario}
    (h : ∀ scenario ∈ scenarios, scenario.play first = scenario.play second) (tally : Tally)
    (stage : Stage) :
    playAll first tally stage scenarios = playAll second tally stage scenarios := by
  induction scenarios generalizing tally stage with
  | nil => rfl
  | cons scenario scenarios ih =>
    obtain ⟨hplay, hrest⟩ := List.forall_mem_cons.1 h
    rw [playAll, playAll, hplay]
    rcases (scenario.play second).run.run stage with ⟨_ | _, after⟩
    · exact ih hrest _ _
    · exact ih hrest _ _

end

/-! ## Environments that differ in the controlled variables -/

section

variable {bench : Bench} {ambient : Variables}

/-- Every launch is given the same environment. -/
theorem environment_congr
    (h : ∀ name, name ∉ controlled → ambient.get name = bench.environment.get name)
    (config : Config) (pairs : List (String × String)) :
    Trial.environment ({ bench with environment := ambient }.setting config) pairs =
      Trial.environment (bench.setting config) pairs := by
  ext1
  funext name
  rw [get_environment, get_environment]
  split_ifs with hname
  · rfl
  · exact congrArg _ (h name hname)

theorem alike_setting
    (h : ∀ name, name ∉ controlled → ambient.get name = bench.environment.get name)
    (config : Config) :
    Alike ({ bench with environment := ambient }.setting config) (bench.setting config) :=
  alike_of_environment_eq rfl rfl (environment_congr h config)

/-- The default work directory is named by a variable that is not controlled. -/
theorem configure_congr
    (h : ∀ name, name ∉ controlled → ambient.get name = bench.environment.get name)
    (options : Options) :
    configure { bench with environment := ambient } options = configure bench options := by
  have hdefault : temporaryDirectory ambient = temporaryDirectory bench.environment := by
    rw [temporaryDirectory, temporaryDirectory, h "TMPDIR" (by decide)]
  simp only [configure, find, settle, hdefault]

end

/-- **The suite is isolated from its own settings.** Change, set or unset the controlled variables
in the environment that the suite is started in: every launch is given the same environment and comes
to the same in every place, every scenario comes to the same result and leaves the same stage, and
the suite ends in the same way with the same output, whatever its command line, whatever programs
there are and whatever they do to the files. -/
theorem run_isolated (bench : Bench) (ambient : Variables)
    (h : ∀ name, name ∉ ["DNX_TRACE", "DNX_APPBASE", "DNX_CONSOLE_HOST", "RUST_LOG"] →
      ambient.get name = bench.environment.get name) :
    let other := { bench with environment := ambient }
    (∀ config pairs name,
      (Trial.environment (other.setting config) pairs).get name =
          (Trial.environment (bench.setting config) pairs).get name ∧
        (Trial.environment (bench.setting config) pairs).get name =
          (lastGiven name (pairs.map fun pair => (pair.1, Utf8.encode pair.2))).or
            (if name ∈ controlled then none else bench.environment.get name)) ∧
    (∀ config place arguments pairs directory,
      (other.setting config).launch place arguments pairs directory =
        (bench.setting config).launch place arguments pairs directory) ∧
    (∀ config, ∀ scenario ∈ Scenario.all, ∀ stage,
      (scenario.play (other.setting config)).outcome stage =
        (scenario.play (bench.setting config)).outcome stage) ∧
    ∀ tokens, run other tokens = run bench tokens := by
  intro other
  have halike : ∀ config, Alike (other.setting config) (bench.setting config) := alike_setting h
  have hplay : ∀ config, play other config = play bench config := by
    intro config
    have hclean : clean other config.workDirectory = clean bench config.workDirectory := rfl
    simp only [play, hclean, playAll_congr (halike config).play_eq]
  refine ⟨fun config pairs name => ⟨?_, get_environment (bench.setting config) pairs name⟩,
    fun config => (halike config).launch, ?_, ?_⟩
  · exact congrArg (Variables.get · name) (environment_congr h config pairs)
  · intro config scenario hmem stage
    rw [(halike config).play_eq scenario hmem]
  · intro tokens
    have hconfigure : configure other = configure bench := funext (configure_congr h)
    rw [run, run, hconfigure, funext hplay]

/-- An environment in which each controlled variable has a value. -/
def meddled : Variables :=
  .ofList [(traceVariable, Utf8.encode "1"), (baseVariable, Utf8.encode "/r"),
    (consoleVariable, Utf8.encode "0"), (Launch.filterVariable, Utf8.encode "off")]

/-- The bootstrapper itself answers otherwise in such an environment; the suite does not. -/
theorem run_isolated_meddled :
    let tokens := ["--dnx", "/r/dnx", "--host", "/r/host.so", "--work-dir", "/w"]
    let launched := fun environment => (bootstrapper (Utf8.encode "/r/dnx") ""
      ⟨["--host", "/r/host.so"], environment, plainBench.directory, plainBench.files⟩).ended
    launched meddled ≠ launched plainBench.environment ∧
      (∀ name, name ∉ ["DNX_TRACE", "DNX_APPBASE", "DNX_CONSOLE_HOST", "RUST_LOG"] →
        meddled.get name = plainBench.environment.get name) ∧
      run { plainBench with environment := meddled } tokens = run plainBench tokens := by
  intro tokens launched
  have hmeddled : ∀ name, name ∉ ["DNX_TRACE", "DNX_APPBASE", "DNX_CONSOLE_HOST", "RUST_LOG"] →
      meddled.get name = plainBench.environment.get name := by
    intro name hname
    have hother : lastGiven name [(traceVariable, Utf8.encode "1"),
        (baseVariable, Utf8.encode "/r"), (consoleVariable, Utf8.encode "0"),
        (Launch.filterVariable, Utf8.encode "off")] = none := by
      simp only [List.mem_cons, List.not_mem_nil, or_false, not_or] at hname
      simp [lastGiven, traceVariable, baseVariable, consoleVariable, Launch.filterVariable, hname,
        eq_comm]
    rw [meddled, get_ofList, hother]
    rfl
  exact ⟨by decide +kernel, hmeddled, (run_isolated plainBench meddled hmeddled).2.2.2 tokens⟩

end Bootstrapper.Suite
