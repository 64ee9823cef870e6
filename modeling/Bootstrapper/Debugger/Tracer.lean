import Bootstrapper.Text.Blank
import Bootstrapper.Text.Lines
import Bootstrapper.Text.Numeral

/-!
# The tracing process

The system tells about a process line by line; one line names the process that traces it, zero if
none does.
-/

namespace Bootstrapper.Debugger

def tracerMark : String := "TracerPid:"

/-- The tracer in a status text (`tracer_pid`). The first line with the mark decides, also when it
names none. -/
def tracer? (status : String) : Option UInt32 :=
  (Lines.firstAfter? tracerMark status).bind fun value => Numeral.word? 10 (trimBlanks value)

/-- Whether a debugger is attached (`is_debugger_present`). -/
def isTraced (status : String) : Bool :=
  (tracer? status).any (· ≠ 0)

end Bootstrapper.Debugger
