import Bootstrapper.Suite.Options
import Bootstrapper.Suite.Program
import Bootstrapper.Suite.Report

/-!
# Trials

What a scenario may do: print, make directories below the work directory, launch the program under
test with variables of its choice, and give up with a reason. What it has printed and made stays
when it gives up.

A launch looks at the files as they are then. What was removed, the current directory or the program
under test, is not there for it. A current directory that is moved counts as removed.
-/

namespace Bootstrapper.Suite

/-- What the suite is run with (`TestConfig`): the program under test, the demo host, and where
directories are made. -/
structure Config where
  program : Bytes
  host : Bytes
  workDirectory : Bytes
deriving DecidableEq, Repr

/-- What a process finds: the files, and its current directory as long as that one is there. -/
structure Place where
  files : FileTree
  directory : Option Bytes

namespace Place

/-- The place once the files have changed. A current directory that is removed is lost for good, even
if another directory is made at its path later. -/
def change (place : Place) (files : FileTree) : Place where
  files
  directory := place.directory.filter fun path => files.isDirectoryAt (Path.names path)

/-- The current directory of a process that is started at a path. -/
def enter (place : Place) (path : Bytes) : Except IoError (Option Bytes) :=
  match place.files.lookup place.directory path with
  | .error error => .error error
  | .ok .directory => .ok (place.files.realPath place.directory path).toOption
  | .ok (.file _) => .error .notDirectory

end Place

/-- What the suite is started in, and which program each path from the root stands for. -/
structure Bench extends Place where
  environment : Variables
  program? : Bytes → Option Program

/-- The variables that no launch inherits (`DNX_VARS`). -/
def controlled : List String :=
  [traceVariable, baseVariable, consoleVariable, Launch.filterVariable]

/-- What stays the same from launch to launch: the configuration, the programs, and the environment
of the suite itself. -/
structure Setting where
  config : Config
  program? : Bytes → Option Program
  environment : Variables

def Bench.setting (bench : Bench) (config : Config) : Setting :=
  { config
    program? := bench.program?
    environment := bench.environment }

/-- What a trial has changed so far. -/
structure Stage extends Place where
  printed : String

abbrev Trial := ExceptT String (StateM Stage)

/-- A launch that has ended (`Run`). A program that was aborted has no exit code of its own. -/
structure Run where
  stdout : String
  stderr : String
  exitCode : Int
deriving DecidableEq, Repr

def Run.ofEnded (ended : Launch.Ended) : Run :=
  { stdout := ended.stdout
    stderr := ended.stderr
    exitCode :=
      match ended.ending with
      | .exited status => status
      | .aborted _ => -1 }

/-- The environment of a launch: that of the suite without the controlled variables, and then the
launch's own. -/
def Trial.environment (setting : Setting) (pairs : List (String × String)) : Variables :=
  pairs.foldl (fun vars pair => vars.set pair.1 (Utf8.encode pair.2))
    (controlled.foldl Variables.unset setting.environment)

namespace Setting

/-- The program under test as it stands among the files. Only programs can be executed. -/
def program (setting : Setting) (place : Place) : Except IoError Program :=
  match place.files.lookup place.directory setting.config.program with
  | .error error => .error error
  | .ok (.file .program) =>
    (setting.program? setting.config.program).elim (.error .accessDenied) .ok
  | .ok _ => .error .accessDenied

/-- Starts the program under test, in the current directory unless another one is given, and waits
for its end: what is seen of it, and the place that it leaves. -/
def start (setting : Setting) (place : Place) (arguments : List String)
    (pairs : List (String × String)) (directory : Option Bytes) : Except IoError (Run × Place) := do
  -- the directory is entered before the program is executed
  let here ← directory.elim (.ok place.directory) place.enter
  let program ← setting.program place
  let answer := program ⟨arguments, Trial.environment setting pairs, here, place.files⟩
  pure (Run.ofEnded answer.ended, answer.files.foldl Place.change place)

/-- One launch of the program under test (`run_dnx`). -/
def launch (setting : Setting) (place : Place) (arguments : List String)
    (pairs : List (String × String)) (directory : Option Bytes) : Except String (Run × Place) :=
  if directory.isSome && !Path.isAbsolute setting.config.program then
    .error ("dnx path must be absolute: " ++ Utf8.decodeLossy setting.config.program)
  else
    (setting.start place arguments pairs directory).mapError fun error =>
      "Failed to run dnx: " ++ error.message

end Setting

namespace Trial

def say (line : String) : Trial Unit :=
  modify fun stage => { stage with printed := stage.printed ++ line ++ "\n" }

def expect (condition : Bool) (reason : String) : Trial Unit :=
  if condition then pure () else throw reason

def orElse {α : Type} (value? : Option α) (reason : String) : Trial α :=
  match value? with
  | some value => pure value
  | none => throw reason

/-- Makes a directory below the work directory (`make_dir`). -/
def makeDirectory (setting : Setting) (name : String) : Trial Bytes := do
  let path := Path.join setting.config.workDirectory (Utf8.encode name)
  let stage ← get
  let made := stage.files.ensureAll stage.directory path
  set { stage with files := made.1 }
  match made.2 with
  | .ok _ => pure path
  | .error error =>
    throw ("Failed to create " ++ Utf8.decodeLossy path ++ ": " ++ error.message)

def launch (setting : Setting) (arguments : List String) (pairs : List (String × String))
    (directory : Option Bytes) : Trial Run := do
  let stage ← get
  match setting.launch stage.toPlace arguments pairs directory with
  | .error reason => throw reason
  | .ok (run, place) =>
    set { stage with toPlace := place }
    pure run

def report (run : Run) : Trial Json :=
  match readReport run.stdout with
  | .ok value => pure value
  | .error reason => throw reason

end Trial

end Bootstrapper.Suite
