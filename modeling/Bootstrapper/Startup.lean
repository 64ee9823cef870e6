import Bootstrapper.CommandLine.Basic
import Bootstrapper.Debugger.Wait
import Bootstrapper.Environment.Contract
import Bootstrapper.Path.Full

/-!
# The start

From what a command line asks for to the answer of the host: mark a console launch, wait for a
debugger if asked to, find the runtime directory and the application base, hand the payload to the
host module. `Preparation` is what is settled before a module is asked for; `run` adds the call.

The start sees the outside through a `World`: the environment, the current directory and the
executable, each as the system gives them, and a loader of modules.
-/

namespace Bootstrapper.Startup

/-- What a start finds. `answers` are those of the probes for a debugger; when they run out one is
attached. -/
structure World where
  environment : Variables
  directory : Option Bytes
  executable : Except IoError Bytes
  process : String
  answers : List Bool
  load : Loader

inductive Problem
  | noRuntimeDirectory (failure : Failure)
  | noCurrentDirectory (error : IoError)
  | invalidBase (path : String)
  | baseNotUnicode
  | failed (failure : Failure)
deriving DecidableEq, Repr

def Problem.message : Problem → String
  | .noRuntimeDirectory failure => failure.chain "Failed to locate the bootstrapper directory"
  | .noCurrentDirectory error => "Failed to get current directory: " ++ error.message
  | .invalidBase path => "Invalid application base: " ++ path
  | .baseNotUnicode => "Application base is not valid Unicode"
  | .failed failure => failure.message

def note (message : String) : Output :=
  .logged (Log.debug "dnx" message)

/-- The directory of the executable (`native_bootstrapper_directory`), with the slash at its end, so
that a file's name can be put behind it. -/
def runtimeDirectory (executable : Except IoError Bytes) : Except Failure String :=
  match executable with
  | .error error => .error (.executablePath error)
  | .ok path =>
    match Utf8.decode? path with
    | none => .error (.notUnicode path)
    | some text =>
      match Path.directoryOf? text with
      | none => .error (.noDirectory text)
      | some directory => .ok directory

/-- Where the application base comes from (`application_base`): the command line, the environment if
its value can be used, the current directory. -/
def requestedBase (explicit : Option Bytes) (environment : Variables) (directory : Option Bytes) :
    List Output × Except Problem Bytes :=
  match explicit with
  | some path => ([], .ok path)
  | none =>
    match environmentBase? environment with
    | some path => ([], .ok path)
    | none =>
      -- nothing names a base, so the current directory is asked for
      ([note "DNX_APPBASE not usable, falling back to the current directory"],
        match directory with
        | some path => .ok path
        | none => .error (.noCurrentDirectory .notFound))

/-- The full path of an application base (`full_path`). A failure is printed. -/
def fullBase (directory : Option Bytes) (path : Bytes) : List Output × Option Bytes :=
  match Path.full directory path with
  | .ok full =>
    ([.logged (Log.debug "dnx_pal::paths" ("Application base " ++ Utf8.decodeLossy path
      ++ " resolved to " ++ Utf8.decodeLossy full))], some full)
  | .error failure => ([.printed (failure.message ++ "\n")], none)

/-- The host module (`host_module_path`): as the command line says, or the one in the runtime
directory. -/
def hostPath (explicit : Option Bytes) (runtime : String) : Bytes :=
  explicit.getD (Utf8.encode runtime ++ Utf8.encode hostFileName)

def settledBase (directory : Option Bytes) (requested : Bytes) :
    List Output × Except Problem String :=
  match fullBase directory requested with
  | (told, none) => (told, .error (.invalidBase (Utf8.decodeLossy requested)))
  | (told, some full) =>
    match Utf8.decode? full with
    | none => (told, .error .baseNotUnicode)
    | some base => (told ++ [note ("Application base: " ++ base)], .ok base)

/-- What is settled before a module is asked for. -/
structure Preparation where
  host : Bytes
  payload : Payload
deriving DecidableEq, Repr

def assemble (arguments : CommandLine.Arguments) (runtime base : String) :
    Except Problem Preparation :=
  match Payload.build base runtime arguments.arguments with
  | .error failure => .error (.failed failure)
  | .ok payload => .ok ⟨hostPath arguments.host runtime, payload⟩

def prepare (world : World) (environment : Variables) (arguments : CommandLine.Arguments) :
    List Output × Except Problem Preparation :=
  match runtimeDirectory world.executable with
  | .error failure => ([], .error (.noRuntimeDirectory failure))
  | .ok runtime =>
    let started := [note ("Runtime directory: " ++ runtime)]
    match requestedBase arguments.base environment world.directory with
    | (chosen, .error problem) => (started ++ chosen, .error problem)
    | (chosen, .ok requested) =>
      match settledBase world.directory requested with
      | (settled, .error problem) => (started ++ chosen ++ settled, .error problem)
      | (settled, .ok base) => (started ++ chosen ++ settled, assemble arguments runtime base)

inductive Ending
  | code (code : Int32)
  | problem (problem : Problem)
  | faulted (text : String)
deriving DecidableEq, Repr

/-- A start: what could be seen of it, the environment after it, and how it ended. -/
structure Outcome where
  events : List Event
  environment : Variables
  ending : Ending

def conclude (result : Module.Result) : List Output × Ending :=
  match result with
  | .code code => ([note ("Application exited with code " ++ toString code.toInt)], .code code)
  | .failed failure => ([], .problem (.failed failure))
  | .faulted text => ([], .faulted text)

/-- A start from its command line to the answer of the host (`run`). -/
def run (world : World) (tracing : Bool) (arguments : CommandLine.Arguments) : Outcome :=
  -- first of all, so that the mark is there however the start ends
  let environment := markConsole world.environment
  let waited :=
    if arguments.debug then Debugger.waitOutputs world.process world.answers else []
  match prepare world environment arguments with
  | (told, .error problem) => ⟨(waited ++ told).map .output, environment, .problem problem⟩
  | (told, .ok preparation) =>
    let call := Module.call world.load (Trace.toLog tracing) preparation.host
      arguments.entryPoint preparation.payload environment
    let conclusion := conclude call.result
    ⟨(waited ++ told).map .output ++ call.events ++ conclusion.1.map .output, call.environment,
      conclusion.2⟩

end Bootstrapper.Startup
