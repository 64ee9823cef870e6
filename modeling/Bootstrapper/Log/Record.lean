import Bootstrapper.Text.Styled

/-!
# Log records

What the program tells about its own work: a level, the part of the program that speaks (the
target), and a message.
-/

namespace Bootstrapper.Log

inductive Level
  | error
  | warn
  | info
  | debug
  | trace
deriving DecidableEq, Repr

namespace Level

def name : Level → String
  | .error => "ERROR"
  | .warn => "WARN"
  | .info => "INFO"
  | .debug => "DEBUG"
  | .trace => "TRACE"

def verbosity : Level → Nat
  | .error => 1
  | .warn => 2
  | .info => 3
  | .debug => 4
  | .trace => 5

end Level

structure Record where
  level : Level
  target : String
  message : String
deriving DecidableEq, Repr

def debug (target message : String) : Record := ⟨.debug, target, message⟩

def pad (name : String) : String :=
  name ++ String.ofList (List.replicate (5 - name.length) ' ')

/-- A message as it stands in a printed record: its further lines are set in by four blanks. -/
def indent (message : String) : String :=
  String.ofList (message.toList.flatMap fun c => if c = '\n' then "\n    ".toList else [c])

def Level.style : Level → Style
  | .error => .alarm
  | .warn => .yellow
  | .info => .green
  | .debug => .blue
  | .trace => .cyan

def Record.styledLine (stamp : String) (record : Record) : Styled :=
  .fixed .faint "[" ++ .plain (stamp ++ " ") ++ .fixed record.level.style (pad record.level.name)
    ++ .plain (" " ++ record.target) ++ .fixed .faint "]"
    ++ .typed .plain (" " ++ indent record.message ++ "\n")

def Record.line (stamp : String) (record : Record) : String :=
  "[" ++ stamp ++ " " ++ pad record.level.name ++ " " ++ record.target ++ "] "
    ++ indent record.message ++ "\n"

end Bootstrapper.Log
