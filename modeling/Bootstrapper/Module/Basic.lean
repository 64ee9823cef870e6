import Bootstrapper.Environment.Variables
import Bootstrapper.Event

/-!
# Host modules

A module is known by what it exports, and an export by what it does with a payload. `call` loads a
module, finds an export, enters it and releases the module again. What happens between load and
release is `use`, and `held` puts these two around it, however it ends.
-/

namespace Bootstrapper

inductive Ending
  | returned (status : Int32)
  | faulted (text : String)
deriving DecidableEq, Repr

/-- What an export has done: the exit code that it left in the payload, the environment that it
left, what it put out, and how it ended. -/
structure Entered where
  exitCode : Int32
  environment : Variables
  outputs : List Output
  ending : Ending

/-- The signature that the start knows (`ApplicationMainFn`): from the payload and the
environment. -/
abbrev EntryPoint := Payload → Variables → Entered

/-- A module, by what it exports (`LoadedModule`). -/
abbrev Module := String → Option EntryPoint

/-- What opens modules (`ModuleLoader`). A module that is refused comes with a reason. -/
abbrev Loader := Bytes → Except String Module

def applicationMain : String := "CallApplicationMain"

/-- The name of the host module beside the program (`host_module_file_name`). -/
def hostFileName : String := "libdnx_host.so"

def succeeded (status : Int32) : Bool :=
  0 ≤ status

namespace Module

inductive Result
  | code (code : Int32)
  | failed (failure : Failure)
  | faulted (text : String)
deriving DecidableEq, Repr

/-- A call: what could be seen of it, the payload and the environment after it, and its answer. -/
structure Call where
  events : List Event
  payload : Payload
  environment : Variables
  result : Result

/-- The answer of a call whose export was entered: the exit code in the payload if the status
means success, else the status. -/
def Result.ofEntered (entered : Entered) : Result :=
  match entered.ending with
  | .returned status => .code (if succeeded status then entered.exitCode else status)
  | .faulted text => .faulted text

def use (exports : Module) (trace : Trace) (name : Bytes) (symbol : String) (payload : Payload)
    (environment : Variables) : Call :=
  let shown := Utf8.decodeLossy name
  let opening := trace.write ("Loaded module: " ++ shown) true
  match exports symbol with
  | none =>
    ⟨opening ++ [.searched symbol false], payload, environment,
      .failed (.symbolNotFound shown symbol)⟩
  | some enter =>
    let found := .searched symbol true :: trace.write ("Found export: " ++ symbol) true
    let entered := enter payload environment
    -- however the export ends, the payload has the exit code that it left
    ⟨opening ++ found ++ .entered symbol payload :: entered.outputs.map .output,
      { payload with exitCode := entered.exitCode }, entered.environment, .ofEntered entered⟩

/-- What is done with a module, between its load and its release. -/
def held (name : Bytes) (used : Call) : Call :=
  { used with events := .loaded name true :: used.events ++ [.released name] }

/-- Loads a module, enters one of its exports and releases it (`call_application_main`). -/
def call (load : Loader) (trace : Trace) (name : Bytes) (symbol : String) (payload : Payload)
    (environment : Variables) : Call :=
  match load name with
  | .error reason =>
    ⟨[.loaded name false], payload, environment,
      .failed (.moduleLoad (Utf8.decodeLossy name) reason)⟩
  | .ok exports => held name (use exports trace name symbol payload environment)

end Module

end Bootstrapper
