import Bootstrapper.CommandLine.Parser
import Bootstrapper.Environment.Colour
import Bootstrapper.ExitStatus
import Bootstrapper.Log.Filter
import Bootstrapper.Startup

/-!
# The bootstrapper as a process

The command line is read first; what is wrong with it is told before anything else happens. Then
what is wrong with the filter of the log is told. The log goes to the standard error, as far as the
filter passes it, and in one sequence with what the host writes there. Without colours nothing is
printed there that a terminal would obey; with them, what was typed or found stands as it is.
-/

namespace Bootstrapper.Launch

/-- How a process ends: with a status of one byte, or aborted by a fault. -/
inductive Ending
  | exited (status : Nat)
  | aborted (fault : String)
deriving DecidableEq, Repr

structure Ended where
  ending : Ending
  stdout : String
  stderr : String
deriving DecidableEq, Repr

/-- What a process writes to: the time that the log shows, and which outputs are terminals. -/
structure Console where
  stamp : String
  isStdoutTerminal : Bool
  isStderrTerminal : Bool
deriving DecidableEq, Repr

def Console.piped (stamp : String) : Console := ⟨stamp, false, false⟩

def abortSignal : Nat := 6

def filterVariable : String := "RUST_LOG"

/-- The filter of the log (`init_logging`): as the environment says, else all but the finest records
when tracing is on and only warnings when it is off. With it comes what is ill-formed in it. -/
def logFilter (environment : Variables) (tracing : Bool) : Log.Filter × List Log.FilterFault :=
  let text := (environment.get filterVariable).bind Utf8.decode?
  Log.Filter.read (text.getD (if tracing then "debug" else "warn"))

def styleVariable : String := "RUST_LOG_STYLE"

/-- Whether the log has colours: as its own variable says, else like all that is printed. -/
def logWantsColours (environment : Variables) (isTerminal : Bool) : Bool :=
  if environment.holdsText styleVariable "always" then true
  else if environment.holdsText styleVariable "never" then false
  else wantsColours environment isTerminal

/-- What an output writes to the standard error, where passing records go too. -/
def errorPart (filter : Log.Filter) (hasColours : Bool) (stamp : String) : Output → String
  | .complained text => text
  | .logged record =>
    if !filter.passes record then ""
    else if hasColours then (record.styledLine stamp).drawn
    else Terminal.plainLine (record.line stamp)
  | _ => ""

def printed (hasColours : Bool) (styled : Styled) : String :=
  if hasColours then styled.drawn else styled.shown Terminal.plainLine

/-- The status that a start's ending comes to, with what is told about it at last. -/
def finish : Startup.Ending → Ending × String
  | .code code => (.exited (observedExit (exitStatus code)).toInt.toNat, "")
  | .problem problem => (.exited 1, "Error: " ++ problem.message ++ "\n")
  | .faulted text => (.aborted text, text ++ "\n")

/-- The whole process (`main`), given what it finds and what it writes to. -/
def run (world : Startup.World) (console : Console) (tokens : List Bytes) : Ended :=
  let environment := world.environment
  match CommandLine.parse tokens with
  | .error .help =>
    -- help is no error, so it goes to the other output
    let hasColours := wantsColours environment console.isStdoutTerminal
    ⟨.exited 0, printed hasColours CommandLine.UsageError.help.styled, ""⟩
  | .error error =>
    let hasColours := wantsColours environment console.isStderrTerminal
    ⟨.exited 2, "", printed hasColours error.styled⟩
  | .ok arguments =>
    let tracing := isTracing environment
    let filter := logFilter environment tracing
    let hasColours := logWantsColours environment console.isStderrTerminal
    let outcome := Startup.run world tracing arguments
    let outputs := Event.outputs outcome.events
    let last := finish outcome.ending
    ⟨last.1, Output.stdout outputs,
      String.join (filter.2.map Log.FilterFault.warning)
        ++ String.join (outputs.map (errorPart filter.1 hasColours console.stamp))
        ++ last.2⟩

end Bootstrapper.Launch
