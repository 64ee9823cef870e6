import Bootstrapper.Suite.Trial
import Bootstrapper.Text.Quoted

/-!
# The scenarios

Ten scenarios, each launching the program under test once or more with the demo host and holding
what it answers against what a bootstrapper has to do. They are played in the order of `all`.
-/

namespace Bootstrapper.Suite

open Trial

structure Scenario where
  name : String
  play : Setting → Trial Unit

namespace Scenario

/-- The status of a general failure, as it is written on a command line. -/
def failureStatus : String := "0x80004005"

/-- The host as it is named on a command line (`host_arg`). -/
def hostArgument (setting : Setting) : String :=
  Utf8.decodeLossy setting.config.host

def announce (name : String) : Trial Unit :=
  say ("  Running test: " ++ name)

def shown (n : Int) : String := toString n

/-- The exit code that the host sets is that of the process, and the payload arrives whole
(`test_exit_code_forwarding`). -/
def exitCodeForwarding (setting : Setting) : Trial Unit := do
  announce "exit_code_forwarding"
  let app ← makeDirectory setting "exit_code_app"
  let appArgument := Utf8.decodeLossy app
  let run ← launch setting ["--host", hostArgument setting, "--appbase", appArgument, "--",
    "--exit", "7", "extra"] [] none
  expect (run.exitCode = 7)
    ("Expected exit code 7, got " ++ shown run.exitCode ++ ": " ++ run.stderr)
  let value ← report run
  let base := value.field "application_base"
  expect (base.string? = some appArgument) ("Unexpected application_base: " ++ base.render)
  let arguments := (((value.field "args").elements?).getD []).filterMap Json.string?
  expect (arguments = ["--exit", "7", "extra"])
    ("Unexpected args: " ++ Text.quoteList arguments)
  let runtime ← orElse (value.field "runtime_directory").string?
    "runtime_directory missing from report"
  expect (runtime.toList.getLast? = some '/')
    ("runtime_directory lacks trailing separator: " ++ runtime)
  let name ← orElse (Path.fileName? setting.config.program) "dnx path has no file name"
  let stage ← get
  expect (stage.files.holds stage.directory (Path.join (Utf8.encode runtime) name))
    ("runtime_directory does not contain dnx: " ++ runtime)
  say "    PASS"

/-- A failing status is the answer instead of the exit code (`test_failure_status`). -/
def failureStatusForwarding (setting : Setting) : Trial Unit := do
  announce "failure_status"
  let run ← launch setting ["--host", hostArgument setting, "--", "--fail", failureStatus] [] none
  let expected := (observedExit (-2147467259)).toInt
  expect (run.exitCode = expected)
    ("Expected exit code " ++ shown expected ++ ", got " ++ shown run.exitCode)
  say "    PASS"

/-- A launch that must not exit cleanly although the low byte of its status is zero. -/
def lowByteLaunch (setting : Setting) (status : String) : Trial Unit := do
  let run ← launch setting ["--host", hostArgument setting, "--", "--fail", status] [] none
  expect (run.exitCode ≠ 0) ("Failure status " ++ status ++ " exited cleanly")

/-- A failing status whose low byte is zero is a failure all the same
(`test_failure_status_low_byte`). -/
def failureStatusLowByte (setting : Setting) : Trial Unit := do
  announce "failure_status_low_byte"
  lowByteLaunch setting "0x80070100"
  lowByteLaunch setting "-256"
  say "    PASS"

/-- A host that is not there is told, and nothing is traced (`test_missing_host`). -/
def missingHost (setting : Setting) : Trial Unit := do
  announce "missing_host"
  let missing := Path.join (Path.join setting.config.workDirectory (Utf8.encode "missing"))
    (Utf8.encode "dnx_nothing_here")
  let argument := Utf8.decodeLossy missing
  let run ← launch setting ["--host", argument] [(traceVariable, "1")] none
  expect (run.exitCode = 1) ("Expected exit code 1, got " ++ shown run.exitCode)
  expect (mentions run.stderr ("Failed to load: " ++ argument))
    ("Missing load error in stderr: " ++ run.stderr)
  expect (!mentions run.stderr "Loaded module:")
    ("Trace emitted on load failure: " ++ run.stderr)
  say "    PASS"

/-- An export that the host lacks is told (`test_missing_export`). -/
def missingExport (setting : Setting) : Trial Unit := do
  announce "missing_export"
  let host := hostArgument setting
  let run ← launch setting ["--host", host, "--entry-point", "DnxNoSuchExport"] [] none
  expect (run.exitCode = 1) ("Expected exit code 1, got " ++ shown run.exitCode)
  expect (mentions run.stderr ("Failed to find export 'DnxNoSuchExport' in " ++ host))
    ("Missing export error in stderr: " ++ run.stderr)
  say "    PASS"

def traceArguments (setting : Setting) : List String :=
  ["--host", hostArgument setting, "--", "--exit", "0"]

def tracedLaunch (setting : Setting) : Trial Unit := do
  let traced ← launch setting (traceArguments setting) [(traceVariable, "1")] none
  expect (traced.exitCode = 0)
    ("Traced run failed with " ++ shown traced.exitCode ++ ": " ++ traced.stderr)
  expect (mentions traced.stderr ("Loaded module: " ++ hostArgument setting))
    ("Missing module trace: " ++ traced.stderr)
  expect (mentions traced.stderr "Found export: CallApplicationMain")
    ("Missing export trace: " ++ traced.stderr)

def quietLaunch (setting : Setting) (value : String) : Trial Unit := do
  let quiet ← launch setting (traceArguments setting) [(traceVariable, value)] none
  expect (!(mentions quiet.stderr "Loaded module:" || mentions quiet.stderr "Found export:"))
    ("DNX_TRACE=" ++ value ++ " should not trace: " ++ quiet.stderr)

/-- Values of the trace variable that leave the trace off. -/
def quietValues : List String := ["0", "true", "11"]

/-- Only one value of the trace variable shows the trace (`test_trace_events`). -/
def traceEvents (setting : Setting) : Trial Unit := do
  announce "trace_events"
  tracedLaunch setting
  say "    PASS (DNX_TRACE=1)"
  quietValues.forM (quietLaunch setting)
  say "    PASS (other values)"

def consoleLaunch (setting : Setting) (pairs : List (String × String)) (expected : String) :
    Trial Unit := do
  let run ← launch setting ["--host", hostArgument setting] pairs none
  let console := (← report run).field "console_host"
  expect (console.string? = some expected)
    ("Expected DNX_CONSOLE_HOST=" ++ expected ++ ", got " ++ console.render)

/-- The console marker has a default, and a value that is set is kept
(`test_console_host_default`). -/
def consoleHostDefault (setting : Setting) : Trial Unit := do
  announce "console_host_default"
  consoleLaunch setting [] "1"
  say "    PASS (unset)"
  consoleLaunch setting [(consoleVariable, "0")] "0"
  say "    PASS (preset)"

def reportedBase (run : Run) : Trial String := do
  let value ← report run
  orElse (value.field "application_base").string? "application_base missing from report"

def expectBase (reported : String) (expected : Bytes) : Trial Unit := do
  let stage ← get
  expect (stage.files.sameFile stage.directory (Utf8.encode reported) expected)
    ("Expected application_base " ++ Utf8.decodeLossy expected ++ ", got " ++ reported)

/-- The base that the environment names is seen from the current directory, in full
(`test_appbase_from_environment`). -/
def baseFromEnvironment (setting : Setting) : Trial Unit := do
  announce "appbase_from_environment"
  let directory ← makeDirectory setting "appbase_env"
  let _ ← makeDirectory setting "appbase_env/site"
  let run ← launch setting ["--host", hostArgument setting] [(baseVariable, "other/../site")]
    (some directory)
  let reported ← reportedBase run
  expect (!mentions reported "..") ("application_base was not normalized: " ++ reported)
  expectBase reported (Path.join directory (Utf8.encode "site"))
  say "    PASS"

/-- Without any other base the current directory is it (`test_appbase_falls_back_to_cwd`). -/
def baseFallsBack (setting : Setting) : Trial Unit := do
  announce "appbase_falls_back_to_cwd"
  let directory ← makeDirectory setting "appbase_cwd"
  let run ← launch setting ["--host", hostArgument setting] [] (some directory)
  let reported ← reportedBase run
  expectBase reported directory
  say "    PASS"

/-- A fault of the host is no clean exit, and is told (`test_host_fault`). -/
def hostFault (setting : Setting) : Trial Unit := do
  announce "host_fault"
  let run ← launch setting ["--host", hostArgument setting, "--", "--panic"] [] none
  expect (run.exitCode ≠ 0) "Host fault should not exit cleanly"
  let _ ← report run
  expect (mentions run.stderr DemoHost.faultText)
    ("Missing fault message in stderr: " ++ run.stderr)
  say "    PASS"

def all : List Scenario := [
  ⟨"exit_code_forwarding", exitCodeForwarding⟩,
  ⟨"failure_status", failureStatusForwarding⟩,
  ⟨"failure_status_low_byte", failureStatusLowByte⟩,
  ⟨"missing_host", missingHost⟩,
  ⟨"missing_export", missingExport⟩,
  ⟨"trace_events", traceEvents⟩,
  ⟨"console_host_default", consoleHostDefault⟩,
  ⟨"appbase_from_environment", baseFromEnvironment⟩,
  ⟨"appbase_falls_back_to_cwd", baseFallsBack⟩,
  ⟨"host_fault", hostFault⟩]

end Scenario

end Bootstrapper.Suite
