import Bootstrapper.Module.Basic

/-!
# Sequences of calls

Several calls over one payload: the exit code that one leaves is what the next finds, also after a
call that failed or faulted.
-/

namespace Bootstrapper.Module

/-- A call to be made. -/
structure Order where
  load : Loader
  name : Bytes
  symbol : String

def Order.call (order : Order) (trace : Trace) (payload : Payload) (environment : Variables) :
    Call :=
  Module.call order.load trace order.name order.symbol payload environment

def callAll (trace : Trace) (payload : Payload) (environment : Variables) : List Order → List Call
  | [] => []
  | order :: orders =>
    let call := order.call trace payload environment
    call :: callAll trace call.payload call.environment orders

def environmentAfter (environment : Variables) (calls : List Call) : Variables :=
  calls.foldl (fun _ call => call.environment) environment

/-- Makes calls in order, those of a batch over one payload that begins with exit code zero. -/
def callBatches (trace : Trace) (payload : Payload) (environment : Variables) :
    List (List Order) → List Call
  | [] => []
  | orders :: batches =>
    let calls := callAll trace { payload with exitCode := 0 } environment orders
    calls ++ callBatches trace payload (environmentAfter environment calls) batches

end Bootstrapper.Module
