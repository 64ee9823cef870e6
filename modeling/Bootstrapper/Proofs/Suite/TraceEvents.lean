import Bootstrapper.Proofs.Suite.Trial
import Bootstrapper.Proofs.Text.Lines
import Bootstrapper.Suite.Scenario
import Bootstrapper.Text.Utf8.Laws
import Mathlib.Data.List.Basic

/-!
# What the scenario of the trace asks

The scenario launches the program under test four times with one command line. The trace is on for
the first launch, and three other values of its variable must not turn it on.

* **`traceRuns`**: what the launches come to, each in the place that the one before it left.
* **`gives_tracedLaunch`** and **`gives_quietLaunch`**: what is held against one launch. The first
  has to complete and to show both events; of the others it is asked only that they show none.
* **`answering`**: the program that gives any answers to the values of the variable
  (`traceRuns_answering`), so that the four launches can come to anything.
* **`traceEvents_asks`**: so a program that does not start at all unless the trace is on is passed,
  since it shows nothing.
-/

namespace Bootstrapper.Suite

open Scenario

/-- What launches of the scenario come to with some values of the trace variable, one after the
other. -/
def traceRuns (setting : Setting) (place : Place) : List String → Except String (List Run)
  | [] => .ok []
  | value :: values => do
    let launched ← setting.launch place (traceArguments setting) [(traceVariable, value)] none
    let runs ← traceRuns setting launched.2 values
    pure (launched.1 :: runs)

/-- A launch that has completed and shows both events, that of the module with the name that was
asked for. -/
structure Traced (setting : Setting) (run : Run) : Prop where
  completed : run.exitCode = 0
  module : ("Loaded module: " ++ hostArgument setting).toList <:+: run.stderr.toList
  entryPoint : "Found export: CallApplicationMain".toList <:+: run.stderr.toList

/-- A launch that shows no event, of whatever module and entry point. -/
structure Quiet (run : Run) : Prop where
  module : ¬ "Loaded module:".toList <:+: run.stderr.toList
  entryPoint : ¬ "Found export:".toList <:+: run.stderr.toList

section

variable {setting : Setting} {place : Place} {stage after : Stage} {value : Unit}

theorem traceRuns_cons_eq_ok {text : String} {values : List String} {runs : List Run} :
    traceRuns setting place (text :: values) = .ok runs ↔
      ∃ run after rest, setting.launch place (traceArguments setting) [(traceVariable, text)] none =
          .ok (run, after) ∧ traceRuns setting after values = .ok rest ∧ runs = run :: rest := by
  rw [traceRuns, bind_eq_ok_iff]
  constructor
  · rintro ⟨⟨run, after⟩, hlaunched, h⟩
    obtain ⟨rest, hrest, h⟩ := bind_eq_ok_iff.1 h
    exact ⟨run, after, rest, hlaunched, hrest, (Except.ok.inj h).symm⟩
  · rintro ⟨run, after, rest, hlaunched, hrest, rfl⟩
    exact ⟨(run, after), hlaunched, bind_eq_ok_iff.2 ⟨rest, hrest, rfl⟩⟩

/-! ## One launch -/

theorem gives_tracedLaunch :
    Trial.Gives (tracedLaunch setting) stage value after ↔
      ∃ run place, setting.launch stage.toPlace (traceArguments setting) [(traceVariable, "1")]
          none = .ok (run, place) ∧ Traced setting run ∧ { stage with toPlace := place } = after := by
  simp only [tracedLaunch, Trial.gives_bind, Trial.gives_launch, Trial.gives_expect]
  constructor
  · rintro ⟨run, _, ⟨place, hlaunched, rfl⟩, _, _, ⟨hcode, rfl⟩, _, _, ⟨hloaded, rfl⟩, hfound, rfl⟩
    exact ⟨run, place, hlaunched, ⟨of_decide_eq_true hcode, mentions_iff.1 hloaded,
      mentions_iff.1 hfound⟩, rfl⟩
  · rintro ⟨run, place, hlaunched, h, rfl⟩
    exact ⟨run, _, ⟨place, hlaunched, rfl⟩, (), _, ⟨decide_eq_true h.completed, rfl⟩, (), _,
      ⟨mentions_iff.2 h.module, rfl⟩, mentions_iff.2 h.entryPoint, rfl⟩

theorem gives_quietLaunch {text : String} :
    Trial.Gives (quietLaunch setting text) stage value after ↔
      ∃ run place, setting.launch stage.toPlace (traceArguments setting) [(traceVariable, text)]
          none = .ok (run, place) ∧ Quiet run ∧ { stage with toPlace := place } = after := by
  have hquiet : ∀ run : Run,
      (!(mentions run.stderr "Loaded module:" || mentions run.stderr "Found export:")) = true ↔
        Quiet run := by
    intro run
    rw [Bool.not_eq_true', Bool.or_eq_false_iff, Bool.eq_false_iff, Bool.eq_false_iff, ne_eq, ne_eq,
      mentions_iff, mentions_iff]
    exact ⟨fun h => ⟨h.1, h.2⟩, fun h => ⟨h.module, h.entryPoint⟩⟩
  simp only [quietLaunch, Trial.gives_bind, Trial.gives_launch, Trial.gives_expect, hquiet]
  constructor
  · rintro ⟨run, _, ⟨place, hlaunched, rfl⟩, h, rfl⟩
    exact ⟨run, place, hlaunched, h, rfl⟩
  · rintro ⟨run, place, hlaunched, h, rfl⟩
    exact ⟨run, _, ⟨place, hlaunched, rfl⟩, h, rfl⟩

/-! ## The scenario -/

/-- The launches that have to be quiet are gone through exactly if each comes to its end and is
quiet. -/
theorem passes_quietLaunches_iff {values : List String} :
    Trial.Passes (values.forM (quietLaunch setting)) stage ↔
      ∃ runs, traceRuns setting stage.toPlace values = .ok runs ∧ ∀ run ∈ runs, Quiet run := by
  induction values generalizing stage with
  | nil => exact ⟨fun _ => ⟨[], rfl, nofun⟩, fun _ => ⟨stage, Trial.gives_pure.2 ⟨rfl, rfl⟩⟩⟩
  | cons text values ih =>
    have hstep : Trial.Passes ((text :: values).forM (quietLaunch setting)) stage ↔ _ :=
      Trial.passes_bind
    simp only [hstep, gives_quietLaunch, ih, traceRuns_cons_eq_ok]
    constructor
    · rintro ⟨_, _, ⟨run, place, hlaunched, hquiet, rfl⟩, rest, hrest, hall⟩
      exact ⟨run :: rest, ⟨run, place, rest, hlaunched, hrest, rfl⟩,
        List.forall_mem_cons.2 ⟨hquiet, hall⟩⟩
    · rintro ⟨_, ⟨run, place, rest, hlaunched, hrest, rfl⟩, hall⟩
      obtain ⟨hquiet, hall⟩ := List.forall_mem_cons.1 hall
      exact ⟨(), _, ⟨run, place, hlaunched, hquiet, rfl⟩, rest, hrest, hall⟩

/-- **The scenario of the trace** is what its launches ask. That a launch without the trace
completes is not among it. -/
theorem passes_traceEvents_iff :
    Trial.Passes (traceEvents setting) stage ↔
      ∃ traced quiet,
        traceRuns setting stage.toPlace ("1" :: quietValues) = .ok (traced :: quiet) ∧
          Traced setting traced ∧ ∀ run ∈ quiet, Quiet run := by
  simp only [traceEvents, announce, ↓Trial.passes_bind_say, Trial.passes_bind, Trial.gives_say,
    gives_tracedLaunch, passes_quietLaunches_iff, traceRuns_cons_eq_ok, List.cons.injEq]
  constructor
  · rintro ⟨_, _, rfl, _, _, ⟨traced, place, hlaunched, htraced, rfl⟩, _, _, rfl, quiet, hruns, hall⟩
    exact ⟨traced, quiet, ⟨traced, place, quiet, hlaunched, hruns, rfl, rfl⟩, htraced, hall⟩
  · rintro ⟨traced, quiet, ⟨_, place, _, hlaunched, hruns, rfl, rfl⟩, htraced, hall⟩
    exact ⟨(), _, rfl, (), _, ⟨traced, place, hlaunched, htraced, rfl⟩, (), _, rfl, quiet, hruns,
      hall⟩

/-- The program that answers as it likes to each value of the trace variable. -/
def answering (answers : String → Launch.Ended) : Program :=
  readOnly fun invocation =>
    answers (((invocation.environment.get traceVariable).bind Utf8.decode?).getD "")

/-- The launches of such a program come to its answers. -/
theorem traceRuns_answering {answers : String → Launch.Ended}
    (hfile : place.files.lookup place.directory setting.config.program = .ok (.file .program))
    (hprogram : setting.program? setting.config.program = some (answering answers))
    (values : List String) :
    traceRuns setting place values = .ok (values.map fun value => Run.ofEnded (answers value)) := by
  induction values with
  | nil => rfl
  | cons value values ih =>
    have hvalue : (Trial.environment setting [(traceVariable, value)]).get traceVariable =
        some (Utf8.encode value) := Variables.get_set_self _ _ _
    have hlaunched := Setting.launch_eq_ok (traceArguments setting) [(traceVariable, value)]
      (nofun : none.isSome = true → _) rfl (Setting.program_eq_ok hfile hprogram)
    refine traceRuns_cons_eq_ok.2 ⟨_, place, _, ?_, ih, rfl⟩
    simp only [hlaunched, answering, readOnly, hvalue, Option.bind_some, Utf8.decode?_encode,
      Option.getD_some, List.foldl_nil]

/-- Of launches that are quiet only what they write to the standard error counts. -/
theorem forall_quiet_of_stderr_eq {runs others : List Run}
    (h : runs.map Run.stderr = others.map Run.stderr) (hquiet : ∀ run ∈ runs, Quiet run) :
    ∀ run ∈ others, Quiet run := by
  intro run hrun
  have hmem : run.stderr ∈ runs.map Run.stderr := h ▸ List.mem_map_of_mem hrun
  obtain ⟨other, hother, he⟩ := List.mem_map.1 hmem
  exact ⟨he ▸ (hquiet other hother).module, he ▸ (hquiet other hother).entryPoint⟩

end

/-! ## The main statement -/

/-- **What the scenario asks of the program under test.** It is passed exactly if all four launches
come to their end, the launch with the trace on completes and shows both events, and the three others
show none. The four launches can come to any answers, and of the three only what they write to the
standard error counts: a program that ends them in any other way is judged alike. -/
theorem traceEvents_asks (setting : Setting) (stage : Stage) :
    (Trial.Passes (traceEvents setting) stage ↔
      ∃ traced quiet,
        traceRuns setting stage.toPlace ["1", "0", "true", "11"] = .ok (traced :: quiet) ∧
          Traced setting traced ∧ ∀ run ∈ quiet, Quiet run) ∧
    (∀ answers values,
      stage.files.lookup stage.directory setting.config.program = .ok (.file .program) →
      setting.program? setting.config.program = some (answering answers) →
      traceRuns setting stage.toPlace values =
        .ok (values.map fun value => Run.ofEnded (answers value))) ∧
    ∀ program? traced quiet quiet',
      traceRuns setting stage.toPlace ["1", "0", "true", "11"] = .ok (traced :: quiet) →
      traceRuns { setting with program? } stage.toPlace ["1", "0", "true", "11"] =
        .ok (traced :: quiet') →
      quiet.map Run.stderr = quiet'.map Run.stderr →
      (Trial.Passes (traceEvents setting) stage ↔
        Trial.Passes (traceEvents { setting with program? }) stage) := by
  refine ⟨passes_traceEvents_iff, fun answers values hfile hprogram =>
    traceRuns_answering hfile hprogram values, ?_⟩
  intro program? traced quiet quiet' hruns hruns' hsame
  rw [passes_traceEvents_iff, passes_traceEvents_iff]
  constructor
  · rintro ⟨_, _, h, ⟨hcompleted, hmodule, hentry⟩, hall⟩
    obtain ⟨rfl, rfl⟩ := List.cons.inj (Except.ok.inj (hruns.symm.trans h))
    exact ⟨traced, quiet', hruns', ⟨hcompleted, hmodule, hentry⟩,
      forall_quiet_of_stderr_eq hsame hall⟩
  · rintro ⟨_, _, h, ⟨hcompleted, hmodule, hentry⟩, hall⟩
    obtain ⟨rfl, rfl⟩ := List.cons.inj (Except.ok.inj (hruns'.symm.trans h))
    exact ⟨traced, quiet, hruns, ⟨hcompleted, hmodule, hentry⟩,
      forall_quiet_of_stderr_eq hsame.symm hall⟩

/-- Answers of a program that shows both events if the trace is on, else has nothing but a status. -/
def plainAnswers (status : Nat) (value : String) : Launch.Ended :=
  if value = "1" then
    ⟨.exited 0, "", "Loaded module: /r/host.so\nFound export: CallApplicationMain\n"⟩
  else ⟨.exited status, "", ""⟩

/-- The program of these answers, wherever one stands. -/
def plainSetting (status : Nat) : Setting where
  config := ⟨Utf8.encode "/r/dnx", Utf8.encode "/r/host.so", Utf8.encode "/w"⟩
  program? := fun _ => some (answering (plainAnswers status))
  environment := .empty

/-- A program beside a host, and nothing else. -/
def plainStage : Stage where
  files := .ofList [
    ([Utf8.encode "r"], .directory),
    ([Utf8.encode "r", Utf8.encode "dnx"], .file .program),
    ([Utf8.encode "r", Utf8.encode "host.so"], .file (.library DemoHost.exports))]
  directory := some (Utf8.encode "/")
  printed := ""

/-- A program that completes all launches is judged like one that fails those without the trace. -/
theorem traceEvents_asks_plain :
    let traced : Run :=
      ⟨"", "Loaded module: /r/host.so\nFound export: CallApplicationMain\n", 0⟩
    (∀ status, traceRuns (plainSetting status) plainStage.toPlace ["1", "0", "true", "11"] =
        .ok [traced, ⟨"", "", status⟩, ⟨"", "", status⟩, ⟨"", "", status⟩]) ∧
      Trial.Passes (traceEvents (plainSetting 0)) plainStage ∧
      Trial.Passes (traceEvents (plainSetting 3)) plainStage := by
  intro traced
  obtain ⟨hpasses, -, hcongr⟩ := traceEvents_asks (plainSetting 0) plainStage
  have hfile : plainStage.files.lookup plainStage.directory (Utf8.encode "/r/dnx") =
      .ok (.file .program) := rfl
  have hruns : ∀ status,
      traceRuns (plainSetting status) plainStage.toPlace ["1", "0", "true", "11"] =
        .ok [traced, ⟨"", "", status⟩, ⟨"", "", status⟩, ⟨"", "", status⟩] := fun status =>
    (traceEvents_asks (plainSetting status) plainStage).2.1 (plainAnswers status) _ hfile rfl
  have htraced : Traced (plainSetting 0) traced := ⟨rfl, by decide +kernel, by decide +kernel⟩
  have hquiet : ∀ run ∈ List.replicate 3 (⟨"", "", 0⟩ : Run), Quiet run := by
    intro run hrun
    rw [List.eq_of_mem_replicate hrun]
    exact ⟨by decide, by decide⟩
  have hpassed : Trial.Passes (traceEvents (plainSetting 0)) plainStage :=
    hpasses.2 ⟨_, _, hruns 0, htraced, hquiet⟩
  exact ⟨hruns, hpassed, (hcongr _ _ _ _ (hruns 0) (hruns 3) rfl).1 hpassed⟩

/-- **A pass without launches that complete.** Each of the launches without the trace ends with exit
code 3, having written nothing, and the scenario tells that it is passed. -/
theorem traceEvents_passed_vacuously :
    let outcome := (traceEvents (plainSetting 3)).outcome plainStage
    outcome.1 = .ok () ∧
      outcome.2.printed = "  Running test: trace_events\n" ++ "    PASS (DNX_TRACE=1)\n" ++
        "    PASS (other values)\n" ∧
      traceRuns (plainSetting 3) plainStage.toPlace ["0", "true", "11"] =
        .ok [⟨"", "", 3⟩, ⟨"", "", 3⟩, ⟨"", "", 3⟩] := by
  decide +kernel

end Bootstrapper.Suite
