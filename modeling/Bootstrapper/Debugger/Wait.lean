import Bootstrapper.Event
import Bootstrapper.IoError

/-!
# Waiting for a debugger

A developer may hold the start until a debugger is attached. Two prompts are written before the
waiting and one after it, unless a debugger is there already. Writing may fail; that is logged
and changes nothing else.

`wait` tells every action in order, so that probes, prompts and records can be counted.
-/

namespace Bootstrapper.Debugger

/-- Where prompts go. An attempt leaves the writer in a new state, with an error if it failed. -/
structure Writer (σ : Type) where
  write : σ → String → σ × Option IoError
  flush : σ → σ × Option IoError

inductive Action
  | probed (attached : Bool)
  | wrote (text : String) (error? : Option IoError)
  | flushed (error? : Option IoError)
  | logged (record : Log.Record)
deriving DecidableEq, Repr

def logTarget : String := "dnx_pal::debugger"

/-- The milliseconds between two probes (`POLL_INTERVAL`). -/
def pollInterval : Nat := 250

def promptFailed (error : IoError) : Log.Record :=
  ⟨.warn, logTarget, "Failed to write debugger prompt: " ++ error.message⟩

def attachedRecord (process : String) : Log.Record :=
  Log.debug logTarget ("Debugger attached to process " ++ process)

def openingPrompts (process : String) : List String :=
  ["Process Id: " ++ process, "Waiting for the debugger to attach..."]

def closingPrompt : String := "Debugger attached."

/-- Writes one line and, if that succeeds, flushes it (`say`). -/
def prompt {σ : Type} (writer : Writer σ) (state : σ) (line : String) : σ × List Action :=
  match writer.write state (line ++ "\n") with
  | (state, some error) =>
    (state, [.wrote (line ++ "\n") (some error), .logged (promptFailed error)])
  | (state, none) =>
    match writer.flush state with
    | (state, some error) =>
      (state, [.wrote (line ++ "\n") none, .flushed (some error), .logged (promptFailed error)])
    | (state, none) => (state, [.wrote (line ++ "\n") none, .flushed none])

def promptAll {σ : Type} (writer : Writer σ) (state : σ) : List String → σ × List Action
  | [] => (state, [])
  | line :: lines =>
    let first := prompt writer state line
    let rest := promptAll writer first.1 lines
    (rest.1, first.2 ++ rest.2)

/-- The probes up to the first that finds a debugger; one is found when the answers run out. -/
def poll : List Bool → List Action
  | false :: answers => .probed false :: poll answers
  | _ => [.probed true]

/-- Waits until a probe finds a debugger, given the answers of the probes
(`wait_for_debugger_with`). -/
def wait {σ : Type} (writer : Writer σ) (process : String) (answers : List Bool) (state : σ) :
    σ × List Action :=
  match answers with
  | false :: answers =>
    let before := promptAll writer state (openingPrompts process)
    let after := prompt writer before.1 closingPrompt
    (after.1, .probed false :: before.2 ++ poll answers ++ after.2 ++
      [.logged (attachedRecord process)])
  -- a debugger that is there already is not told about
  | _ => (state, [.probed true])

/-! ## Writers -/

def Writer.steady : Writer Unit where
  write _ _ := ((), none)
  flush _ := ((), none)

/-- A writer that takes only so many lines, and some of whose flushes fail. -/
structure Limited where
  written : String
  flushes : Nat
deriving DecidableEq, Repr

def Limited.lines (state : Limited) : Nat :=
  state.written.toList.count '\n'

/-- The writer that refuses to write once `limit` lines are complete, and whose flushes fail where
`failures` says so. -/
def Writer.limited (limit : Option Nat) (refusal : IoError) (failures : List Bool) :
    Writer Limited where
  write state text :=
    if limit.any (· ≤ state.lines) then (state, some refusal)
    else ({ state with written := state.written ++ text }, none)
  flush state :=
    let failed := failures.getD state.flushes false
    ({ state with flushes := state.flushes + 1 },
      if failed then some (.refused "flush failed") else none)

/-! ## What can be seen -/

def Action.output? : Action → Option Output
  | .wrote text none => some (.printed text)
  | .logged record => some (.logged record)
  | _ => none

def Action.record? : Action → Option Log.Record
  | .logged record => some record
  | _ => none

def probes (actions : List Action) : Nat :=
  actions.countP fun action => action matches .probed _

def waitOutputs (process : String) (answers : List Bool) : List Output :=
  (wait Writer.steady process answers ()).2.filterMap Action.output?

end Bootstrapper.Debugger
