import Bootstrapper.Module.Sequence

/-!
# The courses of a call

A call takes one of three courses (`Course`): the module is refused, the export is missing, or the
export is entered. `call_of_refused`, `call_of_missing` and `call_of_entered` say all that there is
to a call on each of them; everything later about calls is proved from these three equations, one
case for each, and never opens `call`. They are followed by what the answer alone tells about the
course, and by what a call asks for and enters.
-/

namespace Bootstrapper.Event

/-- The name of the module that a loader is asked for. -/
def asked? : Event → Option Bytes
  | .loaded name _ => some name
  | _ => none

/-- The names of the modules that loaders were asked for. -/
def asked (events : List Event) : List Bytes :=
  events.filterMap asked?

@[simp] theorem asked_nil : asked [] = [] := rfl

theorem asked_cons (e : Event) (events : List Event) :
    asked (e :: events) = e.asked?.toList ++ asked events := by
  rw [asked, List.filterMap_cons]
  cases e.asked? <;> rfl

@[simp] theorem asked_append (a b : List Event) : asked (a ++ b) = asked a ++ asked b :=
  List.filterMap_append

@[simp] theorem asked_map_output (outputs : List Output) : asked (outputs.map .output) = [] := by
  rw [asked, List.filterMap_eq_nil_iff]
  rintro _ h
  obtain ⟨output, _, rfl⟩ := List.mem_map.1 h
  rfl

@[simp] theorem asked_write (trace : Trace) (message : String) (verboseOnly : Bool) :
    asked (trace.write message verboseOnly) = [] := by
  rw [Trace.write, asked_cons, asked_map_output]
  rfl

@[simp] theorem entered_not_mem_write (symbol : String) (payload : Payload) (trace : Trace)
    (message : String) (verboseOnly : Bool) :
    .entered symbol payload ∉ trace.write message verboseOnly := by
  simp [Trace.write]

end Bootstrapper.Event

namespace Bootstrapper.Module

variable {load : Loader} {trace : Trace} {name : Bytes} {symbol : String} {payload : Payload}
  {environment : Variables} {exports : Module} {enter : EntryPoint} {reason : String}

/-! ## The three courses -/

/-- What becomes of the names that a call is made with. It depends on nothing else. -/
inductive Course (load : Loader) (name : Bytes) (symbol : String) : Prop
  | refused {reason : String} (hload : load name = .error reason)
  | missing {exports : Module} (hload : load name = .ok exports) (hsymbol : exports symbol = none)
  | entered {exports : Module} {enter : EntryPoint} (hload : load name = .ok exports)
      (hsymbol : exports symbol = some enter)

theorem course (load : Loader) (name : Bytes) (symbol : String) : Course load name symbol := by
  cases hload : load name with
  | error reason => exact .refused hload
  | ok exports =>
    cases hsymbol : exports symbol with
    | none => exact .missing hload hsymbol
    | some enter => exact .entered hload hsymbol

theorem call_of_refused (hload : load name = .error reason) :
    call load trace name symbol payload environment =
      ⟨[.loaded name false], payload, environment,
        .failed (.moduleLoad (Utf8.decodeLossy name) reason)⟩ := by
  rw [call, hload]

theorem call_of_missing (hload : load name = .ok exports) (hsymbol : exports symbol = none) :
    call load trace name symbol payload environment =
      ⟨.loaded name true :: (trace.write ("Loaded module: " ++ Utf8.decodeLossy name) true
          ++ [.searched symbol false]) ++ [.released name],
        payload, environment, .failed (.symbolNotFound (Utf8.decodeLossy name) symbol)⟩ := by
  simp only [call, hload, held, use, hsymbol]

theorem call_of_entered (hload : load name = .ok exports) (hsymbol : exports symbol = some enter) :
    call load trace name symbol payload environment =
      ⟨.loaded name true :: (trace.write ("Loaded module: " ++ Utf8.decodeLossy name) true
          ++ (.searched symbol true :: trace.write ("Found export: " ++ symbol) true)
          ++ .entered symbol payload :: (enter payload environment).outputs.map .output)
          ++ [.released name],
        { payload with exitCode := (enter payload environment).exitCode },
        (enter payload environment).environment, .ofEntered (enter payload environment)⟩ := by
  simp only [call, hload, held, use, hsymbol]

/-! ## What the answer tells -/

/-- Whether an answer says that the module was refused or the export missing. -/
def Result.isRefusal : Result → Bool
  | .failed (.moduleLoad _ _) => true
  | .failed (.symbolNotFound _ _) => true
  | _ => false

/-- An export that was entered answers with a code or a fault. -/
theorem isRefusal_ofEntered (entered : Entered) :
    (Result.ofEntered entered).isRefusal = false := by
  rw [Result.ofEntered]
  split <;> rfl

theorem ofEntered_returned {entered : Entered} {status : Int32}
    (h : entered.ending = .returned status) :
    Result.ofEntered entered = .code (if 0 ≤ status then entered.exitCode else status) := by
  rw [Result.ofEntered, h]
  simp only [succeeded, decide_eq_true_eq]

theorem ofEntered_faulted {entered : Entered} {text : String}
    (h : entered.ending = .faulted text) : Result.ofEntered entered = .faulted text := by
  rw [Result.ofEntered, h]

/-- **When a call answers with a code.** The module is loaded, the export is found, and it
returns. -/
theorem result_eq_code_iff {code : Int32} :
    (call load trace name symbol payload environment).result = .code code ↔
      ∃ exports enter status, load name = .ok exports ∧ exports symbol = some enter ∧
        (enter payload environment).ending = .returned status ∧
        code = if 0 ≤ status then (enter payload environment).exitCode else status := by
  constructor
  · intro h
    cases course load name symbol with
    | refused hload =>
      rw [call_of_refused hload] at h
      cases h
    | missing hload hsymbol =>
      rw [call_of_missing hload hsymbol] at h
      cases h
    | @entered exports enter hload hsymbol =>
      rw [call_of_entered hload hsymbol] at h
      cases hend : (enter payload environment).ending with
      | returned status =>
        rw [ofEntered_returned hend] at h
        exact ⟨exports, enter, status, hload, hsymbol, hend, (Result.code.inj h).symm⟩
      | faulted text =>
        rw [ofEntered_faulted hend] at h
        cases h
  · rintro ⟨exports, enter, status, hload, hsymbol, hend, rfl⟩
    rw [call_of_entered hload hsymbol]
    exact ofEntered_returned hend

/-- A refusal comes before any export is entered: the module was refused or the export missing. -/
theorem isRefusal_result_iff :
    (call load trace name symbol payload environment).result.isRefusal = true ↔
      ¬ ∃ exports enter, load name = .ok exports ∧ exports symbol = some enter := by
  constructor
  · rintro h ⟨exports, enter, hload, hsymbol⟩
    rw [call_of_entered hload hsymbol, isRefusal_ofEntered] at h
    cases h
  · intro h
    cases course load name symbol with
    | refused hload =>
      rw [call_of_refused hload]
      rfl
    | missing hload hsymbol =>
      rw [call_of_missing hload hsymbol]
      rfl
    | entered hload hsymbol => exact absurd ⟨_, _, hload, hsymbol⟩ h

/-! ## What a call asks for and enters -/

/-- A call asks its loader once, for its module. -/
theorem asked_call :
    Event.asked (call load trace name symbol payload environment).events = [name] := by
  cases course load name symbol with
  | refused hload =>
    rw [call_of_refused hload]
    rfl
  | missing hload hsymbol =>
    rw [call_of_missing hload hsymbol]
    simp [Event.asked_cons, Event.asked?]
  | entered hload hsymbol =>
    rw [call_of_entered hload hsymbol]
    simp [Event.asked_cons, Event.asked?]

/-- An export is entered exactly if it is found, under the symbol that was asked for and with the
payload of the call. -/
theorem entered_mem_call_iff {symbol' : String} {payload' : Payload} :
    .entered symbol' payload' ∈ (call load trace name symbol payload environment).events ↔
      symbol' = symbol ∧ payload' = payload ∧
        ∃ exports enter, load name = .ok exports ∧ exports symbol = some enter := by
  cases course load name symbol with
  | refused hload =>
    rw [call_of_refused hload]
    simp [hload]
  | missing hload hsymbol =>
    rw [call_of_missing hload hsymbol]
    simp [hload, hsymbol]
  | entered hload hsymbol =>
    rw [call_of_entered hload hsymbol]
    simp [hload, hsymbol]

end Bootstrapper.Module
