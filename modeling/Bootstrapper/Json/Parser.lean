import Bootstrapper.Json.Basic
import Bootstrapper.Text.Numeral
import Bootstrapper.Text.Utf8

/-!
# Reading JSON

A text is read from the left, and each reader answers with what it has read and with the rest. A
fault carries how many bytes were still to come after the one that it concerns, so its column
follows from the length of the whole text.

The readers of values, elements and fields call one another and take fuel; `parse` gives them two
units for each character, and every second call consumes one.
-/

namespace Bootstrapper.Json

inductive Reason
  | endInValue
  | endInArray
  | endInObject
  | endInString
  | expectedValue
  | expectedWord
  | expectedColon
  | expectedCommaOrBracket
  | expectedCommaOrBrace
  | keyNotString
  | trailingComma
  | trailingCharacters
  | invalidNumber
  | numberOutOfRange
  | invalidEscape
  | loneSurrogate
  | unfinishedSurrogate
  | controlCharacter
  | tooDeep
deriving DecidableEq, Repr

namespace Reason

def message : Reason → String
  | .endInValue => "EOF while parsing a value"
  | .endInArray => "EOF while parsing a list"
  | .endInObject => "EOF while parsing an object"
  | .endInString => "EOF while parsing a string"
  | .expectedValue => "expected value"
  | .expectedWord => "expected ident"
  | .expectedColon => "expected `:`"
  | .expectedCommaOrBracket => "expected `,` or `]`"
  | .expectedCommaOrBrace => "expected `,` or `\x7d`"
  | .keyNotString => "key must be a string"
  | .trailingComma => "trailing comma"
  | .trailingCharacters => "trailing characters"
  | .invalidNumber => "invalid number"
  | .numberOutOfRange => "number out of range"
  | .invalidEscape => "invalid escape"
  | .loneSurrogate => "lone leading surrogate in hex escape"
  | .unfinishedSurrogate => "unexpected end of hex escape"
  | .controlCharacter => "control character (\\u0000-\\u001F) found while parsing a string"
  | .tooDeep => "recursion limit exceeded"

end Reason

/-- A reason, and how many bytes follow the byte that it concerns. -/
structure Fault where
  reason : Reason
  left : Nat
deriving DecidableEq, Repr

/-- What a reader answers: what it has read and the rest of the text. -/
abbrev Read (α : Type) := Except Fault (α × List Char)

/-- A fault of the first byte of the rest, or of the end. -/
def Fault.at (reason : Reason) (rest : List Char) : Fault :=
  ⟨reason, Utf8.length rest - 1⟩

def Fault.after (reason : Reason) (count : Nat) (rest : List Char) : Fault :=
  ⟨reason, Utf8.length rest - count⟩

def Fault.end (reason : Reason) : Fault :=
  ⟨reason, 0⟩

def isGap (c : Char) : Bool :=
  c = ' ' || c = '\n' || c = '\t' || c = '\r'

def skipGap (cs : List Char) : List Char :=
  cs.dropWhile isGap

def readWord (value : Json) : List Char → List Char → Read Json
  | [], cs => .ok (value, cs)
  | _ :: _, [] => .error (.end .endInValue)
  | w :: word, c :: cs =>
    if w = c then readWord value word cs else .error (.at .expectedWord (c :: cs))

/-! ## Numbers

A number is gathered as a significand of 64 bits and a power of ten. Digits that no longer fit the
significand count as places only, and a double is made by one multiplication or division, so
long numbers may differ from the nearest double in their last bits.
-/

/-- A number being read: its significand, and the power of ten that it is to be multiplied by. -/
structure Gathered where
  significand : Nat
  exponent : Int
deriving Repr

def significandLimit : Nat := 0xFFFFFFFFFFFFFFFF

def digitValue (c : Char) : Nat := c.toNat - '0'.toNat

/-- Gathers digits while they fit; answers also with those that do not. -/
def gather (significand : Nat) : List Char → Nat × List Char
  | [] => (significand, [])
  | c :: cs =>
    let next := significand * 10 + digitValue c
    if next ≤ significandLimit then gather next cs else (significand, c :: cs)

/-- The double of a gathered number. Where the power of ten is no double the value is divided in
steps; one too large is refused. -/
def Gathered.toDouble? (positive : Bool) (number : Gathered) : Option Float :=
  let signed (x : Float) := if positive then x else -x
  let start := (UInt64.ofNat number.significand).toFloat
  if 0 ≤ number.exponent then
    -- 10^308 is the greatest power of ten that is a double
    if 308 < number.exponent then if number.significand = 0 then some (signed start) else none
    else
      let x := start * Float.ofScientific 1 false number.exponent.toNat
      if x.isInf then none else some (signed x)
  else
    let places := (-number.exponent).toNat
    let steps := min ((places - 1) / 308) 3
    let x := (List.range steps).foldl (fun x _ => x / Float.ofScientific 1 false 308) start
    let rest := places - steps * 308
    some (signed (if 308 < rest then 0.0 else x / Float.ofScientific 1 false rest))

def finish (positive : Bool) (number : Gathered) (rest : List Char) : Read Number :=
  match number.toDouble? positive with
  | some x => .ok (.double x, rest)
  | none => .error (.after .numberOutOfRange 0 rest)

def gatherExponent (value : Nat) : List Char → Nat × List Char
  | [] => (value, [])
  | c :: cs =>
    let next := value * 10 + digitValue c
    if next < (1 <<< 31) then gatherExponent next cs else (value, c :: cs)

def readExponent (positive : Bool) (number : Gathered) (cs : List Char) : Read Number :=
  let raises := cs.head? ≠ some '-'
  let cs := if cs.head? = some '+' ∨ cs.head? = some '-' then cs.tail else cs
  let digits := cs.takeWhile Char.isDigit
  let rest := cs.dropWhile Char.isDigit
  if digits.isEmpty then
    .error (if cs.isEmpty then .end .endInValue else .at .invalidNumber cs)
  else
    match gatherExponent 0 digits with
    | (value, []) =>
      let exponent := if raises then number.exponent + value else number.exponent - value
      finish positive ⟨number.significand, exponent⟩ rest
    -- an exponent of more than 31 bits makes zero or too much of any significand
    | (_, _ :: more) =>
      if number.significand ≠ 0 ∧ raises then .error (.after .numberOutOfRange 0 (more ++ rest))
      else .ok (.double (if positive then 0.0 else -0.0), rest)

def readTail (positive : Bool) (number : Gathered) : List Char → Read Number
  | 'e' :: cs => readExponent positive number cs
  | 'E' :: cs => readExponent positive number cs
  | cs => finish positive number cs

def readFraction (positive : Bool) (number : Gathered) (cs : List Char) : Read Number :=
  let digits := cs.takeWhile Char.isDigit
  let rest := cs.dropWhile Char.isDigit
  if digits.isEmpty then
    .error (if cs.isEmpty then .end .endInValue else .at .invalidNumber cs)
  else
    let gathered := gather number.significand digits
    -- digits that do not fit are dropped, so they do not count as places here
    let taken := digits.length - gathered.2.length
    readTail positive ⟨gathered.1, number.exponent - taken⟩ rest

def wholeNumber (positive : Bool) (significand : Nat) : Number :=
  if positive then .whole significand
  -- zero keeps its sign as a double, and so does what is below the 64 bits with a sign
  else if significand = 0 ∨ (1 <<< 63) < significand then
    .double (-(UInt64.ofNat significand).toFloat)
  else .whole (-(significand : Int))

def readNumber (positive : Bool) (cs : List Char) : Read Number :=
  match cs with
  | [] => .error (.end .endInValue)
  | '0' :: c :: rest =>
    if c.isDigit then .error (.at .invalidNumber (c :: rest)) else
      match c with
      | '.' => readFraction positive ⟨0, 0⟩ rest
      | 'e' | 'E' => readExponent positive ⟨0, 0⟩ rest
      | _ => .ok (wholeNumber positive 0, c :: rest)
  | _ =>
    let digits := cs.takeWhile Char.isDigit
    let rest := cs.dropWhile Char.isDigit
    if digits.isEmpty then .error (.at .invalidNumber cs)
    else
      let gathered := gather 0 digits
      -- before the point, digits that do not fit still count as places
      let number : Gathered := ⟨gathered.1, gathered.2.length⟩
      match rest with
      | '.' :: rest => readFraction positive number rest
      | 'e' :: rest => readExponent positive number rest
      | 'E' :: rest => readExponent positive number rest
      | _ =>
        if gathered.2.isEmpty then .ok (wholeNumber positive gathered.1, rest)
        else finish positive number rest

/-! ## Strings -/

def readUnit (cs : List Char) : Read Nat :=
  let unit? : Option (Nat × List Char) :=
    match cs with
    | a :: b :: c :: d :: rest => (Numeral.natural? 16 [a, b, c, d]).map (·, rest)
    | _ => none
  match unit? with
  | some unit => .ok unit
  | none =>
    .error (if Utf8.length cs < 4 then .end .endInString else .after .invalidEscape 4 cs)

def readSecondUnit (first : Nat) (cs : List Char) : Read Char :=
  match cs with
  | [] => .error (.end .endInString)
  | '\\' :: [] => .error (.end .endInString)
  | '\\' :: 'u' :: cs =>
    match readUnit cs with
    | .error fault => .error fault
    | .ok (second, rest) =>
      if 0xDC00 ≤ second ∧ second ≤ 0xDFFF then
        .ok (Char.ofNat ((first - 0xD800) * 0x400 + (second - 0xDC00) + 0x10000), rest)
      else .error (.after .loneSurrogate 0 rest)
  | '\\' :: cs => .error (.after .unfinishedSurrogate 1 cs)
  | cs => .error (.after .unfinishedSurrogate 1 cs)

def readEscape (cs : List Char) : Read Char :=
  match cs with
  | [] => .error (.end .endInString)
  | '"' :: cs => .ok ('"', cs)
  | '\\' :: cs => .ok ('\\', cs)
  | '/' :: cs => .ok ('/', cs)
  | 'b' :: cs => .ok ('\x08', cs)
  | 'f' :: cs => .ok ('\x0c', cs)
  | 'n' :: cs => .ok ('\n', cs)
  | 'r' :: cs => .ok ('\r', cs)
  | 't' :: cs => .ok ('\t', cs)
  | 'u' :: cs =>
    match readUnit cs with
    | .error fault => .error fault
    | .ok (unit, rest) =>
      if 0xDC00 ≤ unit ∧ unit ≤ 0xDFFF then .error (.after .loneSurrogate 0 rest)
      else if 0xD800 ≤ unit ∧ unit ≤ 0xDBFF then readSecondUnit unit rest
      else .ok (Char.ofNat unit, rest)
  | cs => .error (.at .invalidEscape cs)

def readChars : Nat → List Char → Read (List Char)
  | 0, _ => .error (.end .endInString)
  | _ + 1, [] => .error (.end .endInString)
  | fuel + 1, c :: cs =>
    if c = '"' then .ok ([], cs)
    else if c = '\\' then
      match readEscape cs with
      | .error fault => .error fault
      | .ok (e, rest) => (readChars fuel rest).map fun (chars, rest) => (e :: chars, rest)
    else if c.toNat < 0x20 then .error (.at .controlCharacter (c :: cs))
    else (readChars fuel cs).map fun (chars, rest) => (c :: chars, rest)

def readString (cs : List Char) : Read String :=
  (readChars (cs.length + 1) cs).map fun (chars, rest) => (String.ofList chars, rest)

/-! ## Values -/

def readColon (cs : List Char) : Except Fault (List Char) :=
  match skipGap cs with
  | ':' :: rest => .ok rest
  | [] => .error (.end .endInObject)
  | rest => .error (.at .expectedColon rest)

/-- What comes next between brackets: a further part, or what stands behind the closing bracket. -/
inductive Next
  | part (rest : List Char)
  | closed (rest : List Char)

def nextElement (isFirst : Bool) (cs : List Char) : Except Fault Next :=
  match skipGap cs with
  | [] => .error (.end .endInArray)
  | ']' :: rest => .ok (.closed rest)
  | c :: rest =>
    if isFirst then .ok (.part (c :: rest))
    else if c = ',' then
      match skipGap rest with
      | [] => .error (.end .endInValue)
      | ']' :: rest => .error (.at .trailingComma (']' :: rest))
      | rest => .ok (.part rest)
    else .error (.at .expectedCommaOrBracket (c :: rest))

/-- Looks for the next field of an object and reads the first quote of its name. -/
def nextName (isFirst : Bool) (cs : List Char) : Except Fault Next :=
  match skipGap cs with
  | [] => .error (.end .endInObject)
  | '\x7d' :: rest => .ok (.closed rest)
  | c :: rest =>
    if isFirst then
      if c = '"' then .ok (.part rest) else .error (.at .keyNotString (c :: rest))
    else if c = ',' then
      match skipGap rest with
      | [] => .error (.end .endInValue)
      | '"' :: rest => .ok (.part rest)
      | '\x7d' :: rest => .error (.at .trailingComma ('\x7d' :: rest))
      | rest => .error (.at .keyNotString rest)
    else .error (.at .expectedCommaOrBrace (c :: rest))

mutual

def readValue : Nat → Nat → List Char → Read Json
  | 0, _, _ => .error (.end .endInValue)
  | fuel + 1, depth, cs =>
    match skipGap cs with
    | [] => .error (.end .endInValue)
    | 'n' :: rest => readWord .null ['u', 'l', 'l'] rest
    | 't' :: rest => readWord (.bool true) ['r', 'u', 'e'] rest
    | 'f' :: rest => readWord (.bool false) ['a', 'l', 's', 'e'] rest
    | '"' :: rest => (readString rest).map fun (text, rest) => (.string text, rest)
    | '[' :: rest =>
      match depth with
      | 0 => .error (.at .tooDeep ('[' :: rest))
      | depth + 1 =>
        (readElements fuel depth true rest).map fun (elements, rest) => (.array elements, rest)
    | '\x7b' :: rest =>
      match depth with
      | 0 => .error (.at .tooDeep ('\x7b' :: rest))
      | depth + 1 =>
        (readFields fuel depth true rest).map fun (fields, rest) => (ofFields fields, rest)
    | '-' :: rest => (readNumber false rest).map fun (value, rest) => (.number value, rest)
    | c :: rest =>
      if c.isDigit then
        (readNumber true (c :: rest)).map fun (value, rest) => (.number value, rest)
      else .error (.at .expectedValue (c :: rest))

def readElements : Nat → Nat → Bool → List Char → Read (List Json)
  | 0, _, _, _ => .error (.end .endInArray)
  | fuel + 1, depth, isFirst, cs =>
    match nextElement isFirst cs with
    | .error fault => .error fault
    | .ok (.closed rest) => .ok ([], rest)
    | .ok (.part cs) =>
      match readValue fuel depth cs with
      | .error fault => .error fault
      | .ok (element, rest) =>
        (readElements fuel depth false rest).map fun (elements, rest) => (element :: elements, rest)

def readFields : Nat → Nat → Bool → List Char → Read (List (String × Json))
  | 0, _, _, _ => .error (.end .endInObject)
  | fuel + 1, depth, isFirst, cs =>
    match nextName isFirst cs with
    | .error fault => .error fault
    | .ok (.closed rest) => .ok ([], rest)
    | .ok (.part cs) =>
      match readString cs with
      | .error fault => .error fault
      | .ok (name, rest) =>
        match readColon rest with
        | .error fault => .error fault
        | .ok rest =>
          match readValue fuel depth rest with
          | .error fault => .error fault
          | .ok (value, rest) =>
            (readFields fuel depth false rest).map fun (fields, rest) =>
              ((name, value) :: fields, rest)

end

def depthLimit : Nat := 127

def readText (cs : List Char) : Except Fault Json :=
  -- values and elements share the fuel: two steps for a character are enough
  match readValue (2 * cs.length + 2) depthLimit cs with
  | .error fault => .error fault
  | .ok (value, rest) =>
    match skipGap rest with
    | [] => .ok value
    | rest => .error (.at .trailingCharacters rest)

def parse (cs : List Char) : Except String Json :=
  match readText cs with
  | .ok value => .ok value
  | .error fault =>
    .error (fault.reason.message ++ " at line 1 column " ++
      toString (Utf8.length cs - fault.left))

end Bootstrapper.Json
