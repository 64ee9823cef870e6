import Bootstrapper.Proofs.Module.Call
import Mathlib.Data.List.Forall2

/-!
# The life of a module

Whatever modules do, a run of calls loads and releases them in order. Two descriptions of that, of
the run as its caller sees it: events, and after each call its answer.

* **`Word`**: the words that a call can speak, given what it finds (`Turn`), outputs left out. There
  are no others, and a run is one word for each turn (`words_trail_history`).
* **`custody`**: an automaton that holds at most one module, lets it be entered only while it is
  held, releases what it holds, and gives no answer while it holds something. It refuses everything
  else, and it refuses no run (`custody_history`).

**`calls_keep_custody`** puts both together.
-/

namespace Bootstrapper.Module

/-! ## What the caller sees -/

/-- A moment of a run: something happens, or a call gives its answer. -/
inductive Moment
  | event (event : Event)
  | answered (result : Result)
deriving DecidableEq, Repr

/-- A call as its caller sees it: what happens, and then the answer. -/
def Call.history (call : Call) : List Moment :=
  call.events.map .event ++ [.answered call.result]

def history (calls : List Call) : List Moment :=
  calls.flatMap Call.history

/-- Whether a moment is more than something put out. -/
def Moment.isMarked : Moment → Bool
  | .event (.output _) => false
  | _ => true

/-- A history without what is put out. -/
def trail (moments : List Moment) : List Moment :=
  moments.filter Moment.isMarked

@[simp] theorem trail_append (a b : List Moment) : trail (a ++ b) = trail a ++ trail b :=
  List.filter_append a b

@[simp] theorem trail_nil : trail [] = [] := rfl

theorem trail_cons (moment : Moment) (moments : List Moment) :
    trail (moment :: moments) = (if moment.isMarked then [moment] else []) ++ trail moments := by
  rw [trail, List.filter_cons]
  split <;> rfl

@[simp] theorem trail_map_output (outputs : List Output) :
    trail ((outputs.map Event.output).map .event) = [] := by
  rw [trail, List.filter_eq_nil_iff]
  intro moment h
  rw [List.map_map] at h
  obtain ⟨output, _, rfl⟩ := List.mem_map.1 h
  exact Bool.false_ne_true

/-- Of a traced message only the message itself is on the trail, not what the log gets of it. -/
@[simp] theorem trail_map_write (trace : Trace) (message : String) (verboseOnly : Bool) :
    trail ((trace.write message verboseOnly).map .event) =
      [.event (.traced message verboseOnly)] := by
  rw [Trace.write, List.map_cons, trail, List.filter_cons_of_pos rfl]
  exact congrArg (_ :: ·) (trail_map_output _)

/-! ## The words of a call -/

def loadedMessage (order : Order) : String :=
  "Loaded module: " ++ Utf8.decodeLossy order.name

def foundMessage (order : Order) : String :=
  "Found export: " ++ order.symbol

/-- What is on the trail of a call up to where an export would be searched. -/
def opening (order : Order) : List Moment :=
  [.event (.loaded order.name true), .event (.traced (loadedMessage order) true)]

/-- What is on the trail of a call while its export is entered. -/
def visit (order : Order) (payload : Payload) : List Moment :=
  [.event (.searched order.symbol true), .event (.traced (foundMessage order) true),
    .event (.entered order.symbol payload)]

/-- An order with the payload and the environment that its call finds. -/
structure Turn where
  order : Order
  payload : Payload
  environment : Variables

/-- What the calls of a run find: each begins with what the one before it left. -/
def turns (trace : Trace) (payload : Payload) (environment : Variables) : List Order → List Turn
  | [] => []
  | order :: orders =>
    let call := order.call trace payload environment
    ⟨order, payload, environment⟩ :: turns trace call.payload call.environment orders

/-- The words of a call: the load fails; the search fails and the module is released; the export is
entered and the module is released, be it after a status or after a fault, which is the answer as it
was raised. -/
inductive Word (turn : Turn) : List Moment → Prop
  | refused {reason : String} (hload : turn.order.load turn.order.name = .error reason) :
      Word turn [.event (.loaded turn.order.name false),
        .answered (.failed (.moduleLoad (Utf8.decodeLossy turn.order.name) reason))]
  | missing {exports : Module} (hload : turn.order.load turn.order.name = .ok exports)
      (hsymbol : exports turn.order.symbol = none) :
      Word turn (opening turn.order ++ [.event (.searched turn.order.symbol false),
        .event (.released turn.order.name), .answered (.failed
          (.symbolNotFound (Utf8.decodeLossy turn.order.name) turn.order.symbol))])
  | returned {exports : Module} {enter : EntryPoint} {status : Int32}
      (hload : turn.order.load turn.order.name = .ok exports)
      (hsymbol : exports turn.order.symbol = some enter)
      (hend : (enter turn.payload turn.environment).ending = .returned status) :
      Word turn (opening turn.order ++ visit turn.order turn.payload ++
        [.event (.released turn.order.name), .answered (.code
          (if 0 ≤ status then (enter turn.payload turn.environment).exitCode else status))])
  | faulted {exports : Module} {enter : EntryPoint} {text : String}
      (hload : turn.order.load turn.order.name = .ok exports)
      (hsymbol : exports turn.order.symbol = some enter)
      (hend : (enter turn.payload turn.environment).ending = .faulted text) :
      Word turn (opening turn.order ++ visit turn.order turn.payload ++
        [.event (.released turn.order.name), .answered (.faulted text)])

section

variable {order : Order} {trace : Trace} {payload : Payload} {environment : Variables}
  {exports : Module}

/-- The trail of a call whose export is missing. -/
theorem trail_history_of_missing (hload : order.load order.name = .ok exports)
    (hsymbol : exports order.symbol = none) :
    trail (order.call trace payload environment).history =
      opening order ++ [.event (.searched order.symbol false), .event (.released order.name),
        .answered (.failed (.symbolNotFound (Utf8.decodeLossy order.name) order.symbol))] := by
  rw [Order.call, Call.history, call_of_missing hload hsymbol]
  simp only [List.map_append, List.map_cons, List.map_nil, trail_append, trail_cons,
    trail_map_write, trail_nil]
  rfl

/-- The trail of a call whose export is entered. -/
theorem trail_history_of_entered {enter : EntryPoint}
    (hload : order.load order.name = .ok exports) (hsymbol : exports order.symbol = some enter) :
    trail (order.call trace payload environment).history =
      opening order ++ visit order payload ++ [.event (.released order.name),
        .answered (.ofEntered (enter payload environment))] := by
  rw [Order.call, Call.history, call_of_entered hload hsymbol]
  simp only [List.map_append, List.map_cons, List.map_nil, trail_append, trail_cons,
    trail_map_write, trail_map_output, trail_nil]
  rfl

end

/-- **A call speaks a word.** One course of the call, one word. -/
theorem word_trail_history (order : Order) (trace : Trace) (payload : Payload)
    (environment : Variables) :
    Word ⟨order, payload, environment⟩ (trail (order.call trace payload environment).history) := by
  cases course order.load order.name order.symbol with
  | refused hload =>
    rw [Order.call, Call.history, call_of_refused hload]
    exact .refused hload
  | missing hload hsymbol =>
    rw [trail_history_of_missing hload hsymbol]
    exact .missing hload hsymbol
  | @entered exports enter hload hsymbol =>
    rw [trail_history_of_entered hload hsymbol]
    -- the word is the same up to the answer, which differs with the ending
    cases hend : (enter payload environment).ending with
    | returned status =>
      rw [ofEntered_returned hend]
      exact .returned hload hsymbol hend
    | faulted text =>
      rw [ofEntered_faulted hend]
      exact .faulted hload hsymbol hend

theorem words_trail_history (trace : Trace) (payload : Payload) (environment : Variables)
    (orders : List Order) :
    ∃ words, List.Forall₂ Word (turns trace payload environment orders) words ∧
      trail (history (callAll trace payload environment orders)) = words.flatten := by
  -- what a call leaves is what the next one begins with, so both are generalized
  induction orders generalizing payload environment with
  | nil => exact ⟨[], .nil, rfl⟩
  | cons order orders ih =>
    obtain ⟨words, hwords, htrail⟩ := ih (order.call trace payload environment).payload
      (order.call trace payload environment).environment
    refine ⟨_, .cons (word_trail_history order trace payload environment) hwords, ?_⟩
    rw [callAll, history, List.flatMap_cons, trail_append, List.flatten_cons, ← htrail, history]

/-! ## Custody -/

/-- What a moment does to the module that is held. A module is loaded only while none is held, and
released only while it is held; exports are searched and entered only while a module is held;
answers come only while none is held. Anything else is refused. -/
def custodyStep (held : Option Bytes) : Moment → Option (Option Bytes)
  | .event (.loaded name succeeded) =>
    match held with
    | none => some (if succeeded then some name else none)
    | some _ => none
  | .event (.released name) => if held = some name then some none else none
  | .event (.searched _ _) => if held.isSome then some held else none
  | .event (.entered _ _) => if held.isSome then some held else none
  | .event (.traced _ _) => some held
  | .event (.output _) => some held
  | .answered _ => if held.isNone then some held else none

/-- The module that is held after some moments, unless one of them is refused. -/
def custody (held : Option Bytes) (moments : List Moment) : Option (Option Bytes) :=
  moments.foldlM custodyStep held

@[simp] theorem custody_nil (held : Option Bytes) : custody held [] = some held := rfl

theorem custody_append (held : Option Bytes) (a b : List Moment) :
    custody held (a ++ b) = (custody held a).bind fun held => custody held b :=
  List.foldlM_append

/-- What is put out changes nothing about what is held. -/
theorem custody_trail (held : Option Bytes) (moments : List Moment) :
    custody held (trail moments) = custody held moments := by
  induction moments generalizing held with
  | nil => rfl
  | cons moment moments ih =>
    by_cases h : moment.isMarked = true
    · rw [trail_cons, if_pos h]
      show (custodyStep held moment).bind (fun held => custody held (trail moments)) =
        (custodyStep held moment).bind fun held => custody held moments
      simp only [ih]
    · -- only outputs are off the trail, and they are no concern of custody
      rw [trail_cons, if_neg h, List.nil_append, ih]
      match moment, h with
      | .event (.output _), _ => rfl

/-- Every word is accepted and ends with nothing held. -/
theorem custody_word {turn : Turn} {word : List Moment} (h : Word turn word) :
    custody none word = some none := by
  have hreleased : ∀ (result : Result),
      custody (some turn.order.name) [.event (.released turn.order.name), .answered result] =
        some none :=
    fun result => by simp [custody, custodyStep]
  cases h with
  | refused hload => rfl
  | missing hload hsymbol => exact hreleased _
  | returned hload hsymbol hend => exact hreleased _
  | faulted hload hsymbol hend => exact hreleased _

theorem custody_history (trace : Trace) (payload : Payload) (environment : Variables)
    (orders : List Order) :
    custody none (history (callAll trace payload environment orders)) = some none := by
  induction orders generalizing payload environment with
  | nil => rfl
  | cons order orders ih =>
    have hcall : custody none (order.call trace payload environment).history = some none := by
      rw [← custody_trail]
      exact custody_word (word_trail_history order trace payload environment)
    rw [callAll, history, List.flatMap_cons, custody_append, hcall]
    exact ih _ _

/-- The first calls of a run are the run of the first orders. -/
theorem take_callAll (trace : Trace) (payload : Payload) (environment : Variables)
    (orders : List Order) (n : Nat) :
    (callAll trace payload environment orders).take n =
      callAll trace payload environment (orders.take n) := by
  induction orders generalizing payload environment n with
  | nil => cases n <;> rfl
  | cons order orders ih =>
    cases n with
    | zero => rfl
    | succ n =>
      rw [callAll, List.take_succ_cons, ih, List.take_succ_cons, callAll]

/-- **Modules are kept in custody.** A run of calls is one word for each call, outputs apart, and it
is accepted up to every point between two calls, with nothing held there. -/
theorem calls_keep_custody (trace : Trace) (payload : Payload) (environment : Variables)
    (orders : List Order) :
    let calls := callAll trace payload environment orders
    (∃ words, List.Forall₂ Word (turns trace payload environment orders) words ∧
        trail (history calls) = words.flatten) ∧
      ∀ n, custody none (history (calls.take n)) = some none := by
  intro calls
  refine ⟨words_trail_history trace payload environment orders, fun n => ?_⟩
  rw [take_callAll]
  exact custody_history trace payload environment (orders.take n)

end Bootstrapper.Module
