import Bootstrapper.Environment.Variables

/-!
# The environment of a process

A process keeps its environment as a list of entries `NAME=VALUE` and finds a variable by the
first entry that begins with its name and an equals sign. Entries are ended by a zero byte in
memory, so neither a name nor a value may hold one, and a name may not hold an equals sign.
-/

namespace Bootstrapper

open Bytes (nul equals)

/-- The environment of a process, entry by entry (`ProcessEnvironment`). -/
structure ProcessTable where
  entries : List Bytes
deriving DecidableEq, Repr

namespace ProcessTable

def opening (name : String) : Bytes :=
  Utf8.encode name ++ [equals]

def isAskable (name : String) : Bool :=
  !name.isEmpty && !(Utf8.encode name).contains nul

def isSettable (name : String) : Bool :=
  isAskable name && !(Utf8.encode name).contains equals

def get (table : ProcessTable) (name : String) : Option Bytes :=
  if isAskable name then table.entries.findSome? (Bytes.after? (opening name)) else none

/-- Puts an entry in the place of the first one with the same opening, or at the end. -/
def replace (start entry : Bytes) : List Bytes → List Bytes
  | [] => [entry]
  | e :: entries =>
    -- later entries of the name stay, but are never found
    if (Bytes.after? start e).isSome then entry :: entries else e :: replace start entry entries

/-- Gives a name a value, unless the name or the value cannot stand in an entry. -/
def set (table : ProcessTable) (name : String) (value : Bytes) : Option ProcessTable :=
  if isSettable name && !value.contains nul then
    some ⟨replace (opening name) (opening name ++ value) table.entries⟩
  else none

instance : VariableTable ProcessTable where
  get := get
  set := set

/-- The table of a list of variables, set one after the other; what cannot be set is left out. -/
def ofList (pairs : List (String × Bytes)) : ProcessTable :=
  pairs.foldl (fun table pair => (table.set pair.1 pair.2).getD table) ⟨[]⟩

end ProcessTable

end Bootstrapper
