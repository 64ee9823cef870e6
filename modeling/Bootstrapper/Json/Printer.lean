import Bootstrapper.Json.Basic
import Bootstrapper.Text.Quoted
import Bootstrapper.Text.Shortest

/-!
# Printing JSON

The compact form: no blanks, and in strings only what the standard forbids to stand for itself is
escaped. No control character stands in the output, so a value never spans lines.
-/

namespace Bootstrapper.Json

open Text (hexadecimal)

def escape (c : Char) : List Char :=
  if c = '"' then ['\\', '"']
  else if c = '\\' then ['\\', '\\']
  else if c = '\x08' then ['\\', 'b']
  else if c = '\x0c' then ['\\', 'f']
  else if c = '\n' then ['\\', 'n']
  else if c = '\r' then ['\\', 'r']
  else if c = '\t' then ['\\', 't']
  else if c.toNat < 0x10 then ['\\', 'u', '0', '0', '0'] ++ hexadecimal c.toNat
  else if c.toNat < 0x20 then ['\\', 'u', '0', '0'] ++ hexadecimal c.toNat
  else [c]

/-- A string in its quotes. -/
def printString (text : String) : List Char :=
  '"' :: text.toList.flatMap escape ++ ['"']

def printExponent (exponent : Int) : List Char :=
  (if 0 ≤ exponent then ['+'] else []) ++ (toString exponent).toList

/-- A positive decimal: with a point for values from 1e-5 to below 1e16, else with an exponent. -/
def printDecimal (d : Text.Decimal) : List Char :=
  let digits := Nat.toDigits 10 d.digits
  let point := digits.length + d.exponent
  if 0 ≤ d.exponent ∧ point ≤ 16 then
    digits ++ List.replicate d.exponent.toNat '0' ++ ['.', '0']
  else if 0 < point ∧ point ≤ 16 then
    digits.take point.toNat ++ '.' :: digits.drop point.toNat
  else if -5 < point ∧ point ≤ 0 then
    ['0', '.'] ++ List.replicate (-point).toNat '0' ++ digits
  else
    let fraction := digits.drop 1
    digits.take 1 ++ (if fraction.isEmpty then [] else '.' :: fraction) ++ 'e' ::
      printExponent (point - 1)

def printDouble (x : Float) : List Char :=
  let bits := x.toBits.toNat
  let magnitude := bits % (1 <<< 63)
  let sign := if bits < (1 <<< 63) then [] else ['-']
  if magnitude = 0 then sign ++ ['0', '.', '0']
  -- with all bits of the exponent set it is infinite or no number
  else if (0x7FF <<< 52) ≤ magnitude then ['n', 'u', 'l', 'l']
  else sign ++ printDecimal (Text.shortest magnitude)

def printNumber : Number → List Char
  | .whole value => (toString value).toList
  | .double value => printDouble value

mutual

def print : Json → List Char
  | .null => ['n', 'u', 'l', 'l']
  | .bool true => ['t', 'r', 'u', 'e']
  | .bool false => ['f', 'a', 'l', 's', 'e']
  | .number value => printNumber value
  | .string value => printString value
  | .array elements => '[' :: printElements elements
  | .object fields => '\x7b' :: printFields fields

def printElements : List Json → List Char
  | [] => [']']
  | [element] => print element ++ [']']
  | element :: elements => print element ++ ',' :: printElements elements

def printFields : List (String × Json) → List Char
  | [] => ['\x7d']
  | [field] => printField field ++ ['\x7d']
  | field :: fields => printField field ++ ',' :: printFields fields

def printField : String × Json → List Char
  | (name, value) => printString name ++ ':' :: print value

end

def render (value : Json) : String :=
  String.ofList (print value)

end Bootstrapper.Json
