import Bootstrapper.Failure

/-!
# The payload

What a host is handed: strings in memory, each ended by a zero byte, the number of the
application's arguments with a slot for each and an empty slot after the last, and a place for the
exit code. A string that holds the ending character cannot be handed over.
-/

namespace Bootstrapper

open Bytes (nul)

/-- The memory of a text: its bytes and the zero byte that ends it. -/
def terminated (text : String) : Bytes :=
  Utf8.encode text ++ [nul]

/-- The memory of a text that can be handed over (`to_c_string`). One that holds the ending byte
would be read as a shorter text; it is refused, and told as its bytes are read. -/
def memoryOf (text : String) : Except Failure Bytes :=
  let bytes := Utf8.encode text
  if bytes.contains nul then .error (.interiorNul (Utf8.decodeLossy bytes))
  else .ok (terminated text)

/-- The bytes that a reader finds in memory before the first zero byte. -/
def untilNul (memory : Bytes) : Bytes :=
  memory.takeWhile (· ≠ nul)

/-- What a host is handed (`CallApplicationMainData`). An empty slot stands for a null pointer. -/
structure Payload where
  base : Option Bytes
  runtime : Option Bytes
  count : Int32
  slots : List (Option Bytes)
  exitCode : Int32
deriving DecidableEq, Repr

namespace Payload

/-- The payload that refers to this memory. -/
def ofMemory (base runtime : Bytes) (arguments : List Bytes) : Payload where
  base := some base
  runtime := some runtime
  count := Int32.ofInt arguments.length
  -- the empty slot ends the slots, as in an argument vector
  slots := arguments.map some ++ [none]
  exitCode := 0

def ofTexts (base runtime : String) (arguments : List String) : Payload :=
  ofMemory (terminated base) (terminated runtime) (arguments.map terminated)

/-- The payload for a base, a runtime directory and arguments (`ApplicationArguments`). Memory is
made for the arguments first, then for the base, then for the runtime directory. -/
def build (base runtime : String) (arguments : List String) : Except Failure Payload := do
  let arguments ← arguments.mapM memoryOf
  let base ← memoryOf base
  let runtime ← memoryOf runtime
  return ofMemory base runtime arguments

def text? (slot : Option Bytes) : Option String :=
  slot.map fun memory => Utf8.decodeLossy (untilNul memory)

/-- The arguments that a host finds: as many slots as are counted, less the empty ones. -/
def arguments (payload : Payload) : List String :=
  (payload.slots.take payload.count.toInt.toNat).filterMap text?

end Payload

end Bootstrapper
