import Bootstrapper.Proofs.Suite.Trial
import Bootstrapper.Suite.Scenario
import Mathlib.Logic.Basic

/-!
# What scenarios ask of the program under test

A scenario as the conditions that it checks: the directories it makes can be made, and what comes
back from its launch is as it says. The program is any program.
-/

namespace Bootstrapper.Suite

open Scenario

section

variable {setting : Setting} {stage after : Stage}

/-- The exit code is 7, and the base comes back as the very text that was given. -/
theorem passes_exitCodeForwarding_iff :
    let app := Path.join setting.config.workDirectory (Utf8.encode "exit_code_app")
    let made := stage.files.ensureAll stage.directory app
    Trial.Passes (exitCodeForwarding setting) stage ↔
      made.2 = .ok () ∧ ∃ run place,
        setting.launch ⟨made.1, stage.directory⟩ ["--host", hostArgument setting, "--appbase",
          Utf8.decodeLossy app, "--", "--exit", "7", "extra"] [] none = .ok (run, place) ∧
        run.exitCode = 7 ∧
        ∃ report, readReport run.stdout = .ok report ∧
          (report.field "application_base").string? = some (Utf8.decodeLossy app) ∧
          ((report.field "args").elements?.getD []).filterMap Json.string? =
            ["--exit", "7", "extra"] ∧
          ∃ runtime, (report.field "runtime_directory").string? = some runtime ∧
            runtime.toList.getLast? = some '/' ∧
            ∃ name, Path.fileName? setting.config.program = some name ∧
              place.files.holds place.directory (Path.join (Utf8.encode runtime) name) = true := by
  simp only [exitCodeForwarding, announce, Trial.passes_bind, Trial.passes_say, Trial.gives_say,
    Trial.gives_makeDirectory, Trial.gives_launch, Trial.gives_expect, Trial.gives_report,
    Trial.gives_orElse, Trial.gives_get, decide_eq_true_eq,
    exists_and_left, exists_eq_left, exists_eq_left', exists_eq', exists_const,
    exists_exists_and_eq_and, and_assoc, and_true]

theorem gives_reportedBase {run : Run} {base : String} :
    Trial.Gives (reportedBase run) stage base after ↔
      (∃ report, readReport run.stdout = .ok report ∧
        (report.field "application_base").string? = some base) ∧ stage = after := by
  simp only [reportedBase, Trial.gives_bind, Trial.gives_report, Trial.gives_orElse, and_assoc,
    exists_and_left, exists_eq_left', ← exists_and_right]

theorem gives_expectBase {reported : String} {expected : Bytes} {value : Unit} :
    Trial.Gives (expectBase reported expected) stage value after ↔
      stage.files.sameFile stage.directory (Utf8.encode reported) expected = true ∧
        stage = after := by
  simp only [expectBase, Trial.gives_bind, Trial.gives_get, Trial.gives_expect, and_assoc,
    exists_and_left, exists_eq_left']

/-- The base comes back without two dots in a row, and leads to the directory that was meant. -/
theorem passes_baseFromEnvironment_iff :
    let directory := Path.join setting.config.workDirectory (Utf8.encode "appbase_env")
    let made := stage.files.ensureAll stage.directory directory
    let made' := made.1.ensureAll stage.directory
      (Path.join setting.config.workDirectory (Utf8.encode "appbase_env/site"))
    Trial.Passes (baseFromEnvironment setting) stage ↔
      made.2 = .ok () ∧ made'.2 = .ok () ∧ ∃ run place,
        setting.launch ⟨made'.1, stage.directory⟩ ["--host", hostArgument setting]
          [(baseVariable, "other/../site")] (some directory) = .ok (run, place) ∧
        ∃ base, (∃ report, readReport run.stdout = .ok report ∧
          (report.field "application_base").string? = some base) ∧
          mentions base ".." = false ∧ place.files.sameFile place.directory (Utf8.encode base)
            (Path.join directory (Utf8.encode "site")) = true := by
  simp only [baseFromEnvironment, announce, Trial.passes_bind, Trial.passes_say, Trial.gives_say,
    Trial.gives_makeDirectory, Trial.gives_launch, gives_reportedBase, Trial.gives_expect,
    gives_expectBase, Bool.not_eq_true', exists_and_left,
    exists_eq_left, exists_eq_left', exists_eq', exists_const,
    exists_exists_and_eq_and, and_assoc, and_true]

end

end Bootstrapper.Suite
