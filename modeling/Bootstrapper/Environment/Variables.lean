import Bootstrapper.Text.Utf8

/-!
# Environment variables

`VariableTable` is what the start needs of an environment: to read a variable and to set one, where
a table may refuse. `Variables` is the plain table, known by what each name holds; it refuses
nothing.
-/

namespace Bootstrapper

/-- A table of environment variables (`Environment`). `set` answers none when the table refuses, and
then nothing has changed. -/
class VariableTable (σ : Type) where
  get : σ → String → Option Bytes
  set : σ → String → Bytes → Option σ

/-- An environment, given by the value of each name (`MemoryEnvironment`). Names differ if they
differ in letter case. -/
@[ext] structure Variables where
  get : String → Option Bytes

namespace Variables

def empty : Variables := ⟨fun _ => none⟩

/-- Gives a name a value. -/
def set (vars : Variables) (name : String) (value : Bytes) : Variables :=
  ⟨fun n => if n = name then some value else vars.get n⟩

def unset (vars : Variables) (name : String) : Variables :=
  ⟨fun n => if n = name then none else vars.get n⟩

def ofList (pairs : List (String × Bytes)) : Variables :=
  pairs.foldl (fun vars pair => vars.set pair.1 pair.2) empty

@[simp] theorem get_empty (name : String) : empty.get name = none := rfl

@[simp] theorem get_set_self (vars : Variables) (name : String) (value : Bytes) :
    (vars.set name value).get name = some value := by
  simp [set]

theorem get_set_of_ne (vars : Variables) {name other : String} (value : Bytes)
    (h : other ≠ name) : (vars.set name value).get other = vars.get other := by
  simp [set, h]

instance : VariableTable Variables where
  get := Variables.get
  set vars name value := some (vars.set name value)

end Variables

end Bootstrapper
