import Bootstrapper.Log.Record
import Bootstrapper.Payload

/-!
# Events

Everything that can be seen of a run, in the order in which it happens: what is put out, what is
traced, and what is done with host modules. Code that is handed no loader and no trace can only put
something out, so `Output` is a type of its own.
-/

namespace Bootstrapper

/-- What code puts out while it runs: text for the reader, a complaint, a record of the log. -/
inductive Output
  | printed (text : String)
  | complained (text : String)
  | logged (record : Log.Record)
deriving DecidableEq, Repr

namespace Output

def stdoutPart : Output → String
  | .printed text => text
  | _ => ""

def stderrPart : Output → String
  | .complained text => text
  | _ => ""

def record? : Output → Option Log.Record
  | .logged record => some record
  | _ => none

def stdout (outputs : List Output) : String :=
  String.join (outputs.map stdoutPart)

def stderr (outputs : List Output) : String :=
  String.join (outputs.map stderrPart)

def records (outputs : List Output) : List Log.Record :=
  outputs.filterMap record?

end Output

/-- One thing that can be seen of a run. A load or a search happens also when it fails. -/
inductive Event
  | output (output : Output)
  | traced (message : String) (verboseOnly : Bool)
  | loaded (name : Bytes) (succeeded : Bool)
  | searched (symbol : String) (succeeded : Bool)
  | entered (symbol : String) (payload : Payload)
  | released (name : Bytes)
deriving DecidableEq, Repr

namespace Event

def output? : Event → Option Output
  | .output put => some put
  | _ => none

def outputs (events : List Event) : List Output :=
  events.filterMap output?

end Event

/-- What is put into the log for a trace message, which may be wanted only when tracing is on
(`TraceWriter`). -/
abbrev Trace := String → Bool → List Log.Record

namespace Trace

def silent : Trace := fun _ _ => []

/-- Logs messages (`LogTraceWriter`); those wanted only when tracing is on go to the developers'
log, and only when it is. -/
def toLog (tracing : Bool) : Trace := fun message verboseOnly =>
  if verboseOnly then
    if tracing then [Log.debug "dnx" message] else []
  else [⟨.info, "dnx", message⟩]

/-- A message that is traced: the message itself and what the log gets of it. -/
def write (trace : Trace) (message : String) (verboseOnly : Bool) : List Event :=
  .traced message verboseOnly :: ((trace message verboseOnly).map Output.logged).map .output

end Trace

end Bootstrapper
