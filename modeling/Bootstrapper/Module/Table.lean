import Bootstrapper.Module.Basic

/-!
# Modules from a table

A loader that knows its modules by name, and exports described by what they do: write the exit
code, add to it, fault, return a status. The first entry with the name asked for counts.
-/

namespace Bootstrapper.Module

structure Behaviour where
  write? : Option Int32
  add? : Option Int32
  writesCount : Bool
  fault? : Option String
  status : Int32
deriving DecidableEq, Repr

namespace Behaviour

/-- The exit code that it leaves in a payload. Adding wraps around at 32 bits. -/
def exitCode (behaviour : Behaviour) (payload : Payload) : Int32 :=
  let written := behaviour.write?.getD payload.exitCode
  let added := written + behaviour.add?.getD 0
  if behaviour.writesCount then payload.count else added

def entryPoint (behaviour : Behaviour) : EntryPoint := fun payload environment =>
  { exitCode := behaviour.exitCode payload
    environment := environment
    outputs := []
    ending := behaviour.fault?.elim (.returned behaviour.status) .faulted }

end Behaviour

/-- A table of modules: each is refused with a reason or has named exports. -/
abbrev Table := List (Bytes × Except String (List (String × EntryPoint)))

def Table.load (table : Table) : Loader := fun name =>
  match table.lookup name with
  | none => .error "The specified module could not be found."
  | some (.error reason) => .error reason
  | some (.ok exports) => .ok fun symbol => exports.lookup symbol

end Bootstrapper.Module
