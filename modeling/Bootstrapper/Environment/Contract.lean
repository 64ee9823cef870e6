import Bootstrapper.Environment.Variables
import Bootstrapper.Path.Basic

/-!
# The variables of the start

Three variables belong to the start: one turns tracing on, one marks a console launch for the host,
one names the application base. `Request` lists what is asked of an environment, so that whole runs
of requests can be compared.
-/

namespace Bootstrapper

def traceVariable : String := "DNX_TRACE"

def consoleVariable : String := "DNX_CONSOLE_HOST"

def baseVariable : String := "DNX_APPBASE"

def switchedOn : Bytes := Utf8.encode "1"

/-- Whether tracing is on (`is_tracing_enabled`): for exactly one value. -/
def isTracing {σ : Type} [VariableTable σ] (table : σ) : Bool :=
  VariableTable.get table traceVariable = some switchedOn

/-- Marks a console launch (`set_console_host`), unless the variable is already set, be it to
nothing. -/
def markConsole {σ : Type} [VariableTable σ] (table : σ) : σ :=
  match VariableTable.get table consoleVariable with
  | some _ => table
  | none => (VariableTable.set table consoleVariable switchedOn).getD table

/-- Whether a value can stand in a platform path buffer (`fits_path_buffer`). -/
def fitsPathBuffer (value : Bytes) : Bool :=
  value.length ≠ 0 && value.length < Path.capacity

/-- The application base that the environment names, if it is one that can be used
(`app_base_from_environment`). -/
def environmentBase? {σ : Type} [VariableTable σ] (table : σ) : Option Bytes :=
  (VariableTable.get table baseVariable).filter fitsPathBuffer

inductive Request
  | read (name : String)
  | write (name : String) (value : Bytes)
  | tracing
  | markConsole
  | base
deriving DecidableEq, Repr

inductive Answer
  | value (value? : Option Bytes)
  | flag (on : Bool)
  | refused
deriving DecidableEq, Repr

def Request.serve {σ : Type} [VariableTable σ] (table : σ) : Request → σ × Answer
  | .read name => (table, .value (VariableTable.get table name))
  | .write name value =>
    match VariableTable.set table name value with
    | some changed => (changed, .value (VariableTable.get changed name))
    | none => (table, .refused)
  | .tracing => (table, .flag (isTracing table))
  | .markConsole =>
    let marked := Bootstrapper.markConsole table
    (marked, .value (VariableTable.get marked consoleVariable))
  | .base => (table, .value (environmentBase? table))

def serveAll {σ : Type} [VariableTable σ] (table : σ) : List Request → σ × List Answer
  | [] => (table, [])
  | request :: requests =>
    let served := request.serve table
    let rest := serveAll served.1 requests
    (rest.1, served.2 :: rest.2)

end Bootstrapper
