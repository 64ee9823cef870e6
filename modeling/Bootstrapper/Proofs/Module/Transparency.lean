import Bootstrapper.Proofs.Module.Call

/-!
# Calls over one payload

The exit code in a payload outlives the call that left it, so what a call answers depends on all
calls before it. This module says what a call does to the payload (`Settles`), that every call of a
run does so from where the call before it left off (`callAll_append`), and that calls which were
refused might as well not have been made.

* **`refused_calls_are_transparent`**: the main statement.

Whether a call is refused depends on the loader and on the names asked for, but not on the payload;
so leaving out one refused call cannot turn another one from refused to entered.
-/

namespace Bootstrapper.Module

/-! ## One call -/

/-- What a call does, given the payload and the environment before it. It answers with a code
exactly if its export is found and returns; the code is then the one in the payload for a status
that means success, and else the status. If it is refused, the payload is as before and nothing was
entered. If an export is entered, the payload has the code that the export left, however it ends. -/
structure Settles (order : Order) (payload : Payload) (environment : Variables) (call : Call) :
    Prop where
  answers_iff : (∃ code, call.result = .code code) ↔
    ∃ exports enter status, order.load order.name = .ok exports ∧
      exports order.symbol = some enter ∧ (enter payload environment).ending = .returned status
  code_eq : ∀ exports enter status, order.load order.name = .ok exports →
    exports order.symbol = some enter → (enter payload environment).ending = .returned status →
    call.result = .code (if 0 ≤ status then call.payload.exitCode else status)
  untouched : call.result.isRefusal = true → call.payload = payload ∧
    call.environment = environment ∧
    ∀ symbol payload, .entered symbol payload ∉ call.events
  written : ∀ exports enter, order.load order.name = .ok exports →
    exports order.symbol = some enter →
    call.payload = { payload with exitCode := (enter payload environment).exitCode }

theorem call_of_isRefusal {order : Order} {trace : Trace} {payload : Payload}
    {environment : Variables}
    (h : (order.call trace payload environment).result.isRefusal = true) :
    (order.call trace payload environment).payload = payload ∧
      (order.call trace payload environment).environment = environment := by
  cases course order.load order.name order.symbol with
  | refused hload =>
    rw [Order.call, call_of_refused hload]
    exact ⟨rfl, rfl⟩
  | missing hload hsymbol =>
    rw [Order.call, call_of_missing hload hsymbol]
    exact ⟨rfl, rfl⟩
  | entered hload hsymbol => exact absurd ⟨_, _, hload, hsymbol⟩ (isRefusal_result_iff.1 h)

/-- Every call settles. -/
theorem settles_call (order : Order) (trace : Trace) (payload : Payload)
    (environment : Variables) :
    Settles order payload environment (order.call trace payload environment) where
  answers_iff := by
    constructor
    · rintro ⟨code, h⟩
      obtain ⟨exports, enter, status, hload, hsymbol, hend, _⟩ := result_eq_code_iff.1 h
      exact ⟨exports, enter, status, hload, hsymbol, hend⟩
    · rintro ⟨exports, enter, status, hload, hsymbol, hend⟩
      exact ⟨_, result_eq_code_iff.2 ⟨exports, enter, status, hload, hsymbol, hend, rfl⟩⟩
  code_eq := by
    intro exports enter status hload hsymbol hend
    rw [Order.call, call_of_entered hload hsymbol]
    exact ofEntered_returned hend
  untouched := by
    intro h
    refine ⟨(call_of_isRefusal h).1, (call_of_isRefusal h).2, fun symbol payload' hmem => ?_⟩
    exact isRefusal_result_iff.1 h (entered_mem_call_iff.1 hmem).2.2
  written := by
    intro exports enter hload hsymbol
    rw [Order.call, call_of_entered hload hsymbol]

/-! ## Runs -/

/-- The payload that calls leave. -/
def payloadAfter (payload : Payload) (calls : List Call) : Payload :=
  calls.foldl (fun _ call => call.payload) payload

/-- Calls that are made later begin with what the earlier ones left. -/
theorem callAll_append (trace : Trace) (payload : Payload) (environment : Variables)
    (before after : List Order) :
    let calls := callAll trace payload environment before
    callAll trace payload environment (before ++ after) = calls ++
      callAll trace (payloadAfter payload calls) (environmentAfter environment calls) after := by
  intro calls
  induction before generalizing payload environment with
  | nil => rfl
  | cons order orders ih =>
    rw [List.cons_append, callAll]
    exact congrArg (_ :: ·) (ih _ _)

/-- The orders and calls of a run that were not refused. -/
def remaining (orders : List Order) (calls : List Call) : List (Order × Call) :=
  (orders.zip calls).filter fun entry => !entry.2.result.isRefusal

/-- The calls that were not refused make a run of their own. A refused call leaves payload and
environment as they were, so what follows it begins with the same whether it was made or not. -/
theorem callAll_remaining (trace : Trace) (payload : Payload) (environment : Variables)
    (orders : List Order) :
    let rest := remaining orders (callAll trace payload environment orders)
    callAll trace payload environment (rest.map Prod.fst) = rest.map Prod.snd := by
  induction orders generalizing payload environment with
  | nil => rfl
  | cons order orders ih =>
    intro rest
    by_cases h : (order.call trace payload environment).result.isRefusal = true
    · -- refused: the rest of the run begins with what this call began with
      have hrest : rest = remaining orders (callAll trace payload environment orders) := by
        obtain ⟨hpayload, henvironment⟩ := call_of_isRefusal h
        simp only [rest, remaining, callAll, List.zip_cons_cons, hpayload, henvironment]
        exact List.filter_cons_of_neg (by simp [h])
      rw [hrest]
      exact ih payload environment
    · have hrest : rest = (order, order.call trace payload environment) ::
          remaining orders (callAll trace (order.call trace payload environment).payload
            (order.call trace payload environment).environment orders) :=
        List.filter_cons_of_pos (by simp [h])
      rw [hrest, List.map_cons, List.map_cons, callAll]
      exact congrArg (_ :: ·) (ih _ _)

/-- **Refused calls are transparent.** Every call of a run settles from where the calls before it
left off, and without the refused calls the run is made of the same calls otherwise, with the same
answers, payloads and events. -/
theorem refused_calls_are_transparent (trace : Trace) (payload : Payload)
    (environment : Variables) (orders : List Order) :
    let calls := callAll trace payload environment orders
    (∀ before order after, orders = before ++ order :: after →
      let earlier := callAll trace payload environment before
      let call := order.call trace (payloadAfter payload earlier)
        (environmentAfter environment earlier)
      calls = earlier ++ call :: callAll trace call.payload call.environment after ∧
        Settles order (payloadAfter payload earlier) (environmentAfter environment earlier) call) ∧
    callAll trace payload environment ((remaining orders calls).map Prod.fst) =
      (remaining orders calls).map Prod.snd := by
  intro calls
  refine ⟨?_, callAll_remaining trace payload environment orders⟩
  intro before order after horders earlier call
  refine ⟨?_, settles_call order trace _ _⟩
  show callAll trace payload environment orders = _
  rw [horders]
  exact callAll_append trace payload environment before (order :: after)

/-- An export that counts its calls in the exit code counts on after a call that was refused. -/
theorem refused_calls_are_transparent_counter :
    let enter : EntryPoint := fun payload environment =>
      ⟨payload.exitCode + 1, environment, [], .returned 5⟩
    let counted : Order := ⟨fun _ => .ok fun _ => some enter, [], "count"⟩
    let missing : Order := ⟨fun _ => .ok fun _ => none, [], "count"⟩
    let refused : Order := ⟨fun _ => .error "no such file", [], "count"⟩
    let payload := Payload.ofTexts "/" "/opt/" []
    let orders := [counted, missing, counted, refused]
    let calls := callAll Trace.silent payload .empty orders
    let earlier := callAll Trace.silent payload .empty [counted, missing]
    let call := counted.call Trace.silent (payloadAfter payload earlier)
      (environmentAfter .empty earlier)
    orders = [counted, missing] ++ counted :: [refused] ∧
      Settles counted (payloadAfter payload earlier) (environmentAfter .empty earlier) call ∧
      call.result = .code 2 ∧ (remaining orders calls).map Prod.fst = [counted, counted] ∧
      (callAll Trace.silent payload .empty [counted, counted]).getLast? = some call := by
  intro enter counted missing refused payload orders calls earlier call
  obtain ⟨hsettles, hremaining⟩ := refused_calls_are_transparent Trace.silent payload .empty orders
  have hcounted : (remaining orders calls).map Prod.fst = [counted, counted] := rfl
  refine ⟨rfl, (hsettles [counted, missing] counted [refused] rfl).2, rfl, hcounted, ?_⟩
  rw [← hcounted, hremaining]
  rfl

end Bootstrapper.Module
