import Bootstrapper.Environment.Contract
import Bootstrapper.Json.Printer
import Bootstrapper.Module.Basic
import Bootstrapper.Text.Numeral

/-!
# The demo host

A host module that first reports on one line what it was handed and then follows the application's
arguments: `--exit N` leaves an exit code, `--fail S` returns a status, `--panic` faults, and
everything else is passed over.
-/

namespace Bootstrapper.DemoHost

def invalidArgument : Int32 := -2147024809

def faultText : String := "Application requested a fault"

/-- What the host was handed, as a value. The marker of a console launch is null if it is unset or
no text. -/
def report (payload : Payload) (environment : Variables) : Json :=
  .ofFields [
    ("application_base", .ofOption (Payload.text? payload.base)),
    ("args", .array (payload.arguments.map .string)),
    ("console_host", .ofOption ((environment.get consoleVariable).bind Utf8.decode?)),
    ("runtime_directory", .ofOption (Payload.text? payload.runtime))]

def reportMark : String := "REPORT:"

def reportLine (payload : Payload) (environment : Variables) : String :=
  reportMark ++ (report payload environment).render ++ "\n"

/-- What following the arguments comes to: the exit code left, a complaint if an argument lacks
its value, and the end. -/
structure Outcome where
  exitCode : Int32
  complaint? : Option String
  ending : Ending
deriving DecidableEq, Repr

/-- Follows the application's arguments from the first on. -/
def follow (exitCode : Int32) : List String → Outcome
  | [] => ⟨exitCode, none, .returned 0⟩
  | argument :: arguments =>
    if argument = "--exit" then
      match arguments with
      | [] => ⟨exitCode, some "Error: --exit requires a number", .returned invalidArgument⟩
      | value :: arguments =>
        match Numeral.int32? value.toList with
        | some code => follow code arguments
        | none => ⟨exitCode, some "Error: --exit requires a number", .returned invalidArgument⟩
    else if argument = "--fail" then
      match arguments.head?.bind fun value => Numeral.status? value.toList with
      | some status => ⟨exitCode, none, .returned status⟩
      | none => ⟨exitCode, some "Error: --fail requires a status", .returned invalidArgument⟩
    -- the exit code so far stays, whatever ends the reading
    else if argument = "--panic" then ⟨exitCode, none, .faulted faultText⟩
    else follow exitCode arguments

/-- The one export of the demo host (`CallApplicationMain`). -/
def callApplicationMain : EntryPoint := fun payload environment =>
  let outcome := follow payload.exitCode payload.arguments
  { exitCode := outcome.exitCode
    environment := environment
    outputs := .printed (reportLine payload environment) ::
      (outcome.complaint?.map fun complaint => .complained (complaint ++ "\n")).toList
    ending := outcome.ending }

def exports : Module := fun symbol =>
  if symbol = applicationMain then some callApplicationMain else none

end Bootstrapper.DemoHost
