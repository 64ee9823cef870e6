import Bootstrapper.Suite.Scenario

/-!
# The suite as a process

The options are read and the paths settled, the work directory is made anew, and the scenarios are
played one after the other, each on the files that those before it left.
-/

namespace Bootstrapper.Suite

def temporaryDirectory (environment : Variables) : Bytes :=
  (environment.get "TMPDIR").getD (Utf8.encode "/tmp")

def find (bench : Bench) (path : String) (refusal : Refusal) : Except Refusal Unit :=
  if bench.files.holds bench.directory (Utf8.encode path) then .ok () else .error refusal

def settle (bench : Bench) (what : String) (path : String) : Except Refusal Bytes :=
  (bench.files.realPath bench.directory (Utf8.encode path)).mapError (.unresolved what)

/-- The configuration that the options ask for (`from_args`). Both programs have to be found before
either is settled. -/
def configure (bench : Bench) (options : Options) : Except Refusal Config := do
  let program ← options.program.elim (.error (.required .program)) .ok
  let host ← options.host.elim (.error (.required .host)) .ok
  let work := (options.workDirectory.map Utf8.encode).getD
    (Path.join (temporaryDirectory bench.environment) (Utf8.encode "dnx-tests"))
  let work ← (Path.absolute bench.directory work).mapError (.unresolved "work dir")
  find bench program (.programNotFound program)
  find bench host (.hostNotFound host)
  let program ← settle bench "dnx path" program
  let host ← settle bench "host path" host
  pure ⟨program, host, work⟩

structure Tally where
  passed : Nat
  failed : Nat
deriving DecidableEq, Repr

/-- Plays scenarios one after the other, whatever the ones before came to, and counts. -/
def playAll (setting : Setting) (tally : Tally) (stage : Stage) : List Scenario → Tally × Stage
  | [] => (tally, stage)
  | scenario :: scenarios =>
    match (scenario.play setting).run.run stage with
    | (.ok _, stage) =>
      playAll setting { tally with passed := tally.passed + 1 } stage scenarios
    | (.error reason, stage) =>
      let line := "  FAILED (" ++ scenario.name ++ "): " ++ reason ++ "\n"
      playAll setting { tally with failed := tally.failed + 1 }
        { stage with printed := stage.printed ++ line } scenarios

def header : String := "=== dnx Bootstrapper Test Suite ===\n\n"

def Config.shown (config : Config) : String :=
  "Configuration:\n  dnx:      " ++ Utf8.decodeLossy config.program
    ++ "\n  Host:     " ++ Utf8.decodeLossy config.host
    ++ "\n  Work dir: " ++ Utf8.decodeLossy config.workDirectory ++ "\n\n"

def Tally.shown (tally : Tally) : String :=
  "\n=== Results ===\nPassed: " ++ toString tally.passed ++ "\nFailed: " ++ toString tally.failed
    ++ "\n\n" ++ (if tally.failed = 0 then "All tests passed!\n" else "")

/-- Removes the work directory if it is there. -/
def removeOld (bench : Bench) (work : Bytes) : Place × Except IoError Unit :=
  if bench.files.holds bench.directory work then
    let removed := bench.files.removeAll bench.directory work
    (bench.toPlace.change removed.1, removed.2)
  else (bench.toPlace, .ok ())

/-- Makes the work directory anew: the place then, what is told about it, and whether it can be
used. -/
def clean (bench : Bench) (work : Bytes) : Place × String × Bool :=
  let removed := removeOld bench work
  let warning :=
    match removed.2 with
    | .ok _ => ""
    | .error error => "Warning: Failed to clean work dir: " ++ error.message ++ "\n"
  let made := removed.1.files.ensureAll removed.1.directory work
  let place := { removed.1 with files := made.1 }
  match made.2 with
  | .ok _ => (place, warning, true)
  | .error error =>
    (place, warning ++ "Error: Failed to create work dir: " ++ error.message ++ "\n", false)

/-- The set-up and then all scenarios (`main`). They begin in the place that the set-up leaves: a current
directory or a program that it removed is not there for them. -/
def play (bench : Bench) (config : Config) : Launch.Ended :=
  match clean bench config.workDirectory with
  | (_, told, false) => ⟨.exited 1, header, told⟩
  | (place, told, true) =>
    let opening := header ++ config.shown ++ "Running " ++ toString Scenario.all.length
      ++ " tests...\n\n"
    let played := playAll (bench.setting config) ⟨0, 0⟩ ⟨place, opening⟩ Scenario.all
    ⟨.exited (if played.1.failed = 0 then 0 else 1), played.2.printed ++ played.1.shown, told⟩

/-- The whole process, given what it finds and its command line. -/
def run (bench : Bench) (tokens : List String) : Launch.Ended :=
  match (Options.empty.read tokens).bind (configure bench) with
  | .ok config => play bench config
  | .error .help => ⟨.exited 0, header ++ Refusal.help.message, ""⟩
  | .error refusal =>
    ⟨.exited 1, header,
      "Error: " ++ refusal.message ++ "\nUse --help for usage information\n"⟩

/-- The suite as a program under test. No launch of a scenario names a program to test, so the suite
refuses its command line and leaves the files as they are. -/
def asProgram (program? : Bytes → Option Program) : Program :=
  readOnly fun invocation =>
    run
      { environment := invocation.environment
        directory := invocation.directory
        files := invocation.files
        program? }
      invocation.arguments

end Bootstrapper.Suite
