/-!
# JSON values

Numbers are whole where the text wrote them so and they fit 64 bits, and doubles otherwise. The
fields of an object are kept in the order of their names, each name once.
-/

namespace Bootstrapper

inductive Json.Number
  | whole (value : Int)
  | double (value : Float)
deriving DecidableEq, Repr

inductive Json
  | null
  | bool (value : Bool)
  | number (value : Json.Number)
  | string (value : String)
  | array (elements : List Json)
  | object (fields : List (String × Json))
deriving Repr, Inhabited

namespace Json

def insert (name : String) (value : Json) : List (String × Json) → List (String × Json)
  | [] => [(name, value)]
  | field :: fields =>
    if name < field.1 then (name, value) :: field :: fields
    else if name = field.1 then (name, value) :: fields
    else field :: insert name value fields

/-- The object with the given fields; of two with one name the later counts. -/
def ofFields (fields : List (String × Json)) : Json :=
  .object (fields.foldl (fun sorted field => insert field.1 field.2 sorted) [])

/-- The value of a field. What is no object, or has no such field, answers null. -/
def field (name : String) : Json → Json
  | .object fields => (fields.lookup name).getD .null
  | _ => .null

def string? : Json → Option String
  | .string value => some value
  | _ => none

def elements? : Json → Option (List Json)
  | .array elements => some elements
  | _ => none

def ofOption : Option String → Json
  | some value => .string value
  | none => .null

end Json

end Bootstrapper
