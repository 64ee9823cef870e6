import Bootstrapper.CommandLine.Usage

/-!
# Reading the command line

Tokens are read from the left. A setting without an equals sign takes the next token as its value;
the value is pending until the next option is accepted, the application's arguments begin or the
input ends, and what is wrong with it shows only then.
-/

namespace Bootstrapper.CommandLine

/-- What has been read so far. `accepted` are the options in the order in which they were accepted,
`pending` is a setting whose value is not yet accepted. -/
structure Progress where
  debug : Bool
  base : Option Bytes
  host : Option Bytes
  entryPoint : Option String
  accepted : List Flag
  pending : Option (Setting × Bytes)
deriving DecidableEq, Repr

namespace Progress

def start : Progress := ⟨false, none, none, none, [], none⟩

def isBlank (progress : Progress) : Bool :=
  progress.accepted.isEmpty

/-- The options that count as used when one follows that is not known: those accepted and the
pending one, whose value does not matter. Used a second time an option does not count. -/
def used (progress : Progress) : List Flag :=
  match progress.pending with
  | none => progress.accepted
  | some (setting, _) =>
    if progress.accepted.contains (.setting setting) then
      progress.accepted.erase (.setting setting)
    else progress.accepted ++ [.setting setting]

/-- Accepts a setting: each at most once, directories and files not empty, an export's name as
text. -/
def accept (progress : Progress) (setting : Setting) (value : Bytes) :
    Except UsageError Progress :=
  let accepted := progress.accepted ++ [.setting setting]
  match setting with
  | .base =>
    if progress.base.isSome then .error (.repeatedSetting .base)
    else if value.isEmpty then .error (.missingValue .base)
    else .ok { progress with accepted, base := some value }
  | .host =>
    if progress.host.isSome then .error (.repeatedSetting .host)
    else if value.isEmpty then .error (.missingValue .host)
    else .ok { progress with accepted, host := some value }
  | .entryPoint =>
    if progress.entryPoint.isSome then .error (.repeatedSetting .entryPoint)
    else
      match Utf8.decode? value with
      | none => .error .notUnicode
      | some name => .ok { progress with accepted, entryPoint := some name }

def settle (progress : Progress) : Except UsageError Progress :=
  match progress.pending with
  | none => .ok progress
  | some (setting, value) => accept { progress with pending := none } setting value

def finish (progress : Progress) (rest : List Bytes) : Except UsageError Arguments :=
  match settle progress with
  | .error error => .error error
  | .ok progress =>
    match rest.mapM Utf8.decode? with
    | none => .error .notUnicode
    | some arguments =>
      .ok {
        debug := progress.debug
        base := progress.base
        host := progress.host
        entryPoint := progress.entryPoint.getD applicationMain
        arguments := arguments }

/-- The error of a token that stands where a setting's value is expected; none if it is one. -/
def valueError? (progress : Progress) (setting : Setting) (token : Bytes) : Option UsageError :=
  match classify token with
  | .word => none
  | .malformed name => some (.unknownOption name progress.used)
  | .switchWith switch value => some (.unexpectedValue switch value progress.isBlank)
  | _ => some (.missingValue setting)

def read (progress : Progress) : List Bytes → Except UsageError Arguments
  | [] => progress.finish []
  | token :: tokens =>
    match classify token with
    | .separator => progress.finish tokens
    -- the first word is the application's own, the separator is nobody's
    | .word => progress.finish (token :: tokens)
    | .malformed name => .error (.unknownOption name progress.used)
    | .switchWith switch value => .error (.unexpectedValue switch value progress.isBlank)
    | .switch .help =>
      match settle progress with
      | .error error => .error error
      | .ok _ => .error .help
    | .switch .debug =>
      match settle progress with
      | .error error => .error error
      | .ok progress =>
        if progress.debug then .error .repeatedDebug
        else
          read
            { progress with debug := true, accepted := progress.accepted ++ [.switch .debug] }
            tokens
    | .settingWith setting value =>
      match settle progress with
      | .error error => .error error
      | .ok progress =>
        match accept progress setting value with
        | .error error => .error error
        | .ok progress => read progress tokens
    | .setting setting =>
      match settle progress with
      | .error error => .error error
      | .ok progress =>
        match tokens with
        | [] => .error (.missingValue setting)
        | value :: tokens =>
          -- the value is only looked at here; it is accepted when something else follows
          match valueError? progress setting value with
          | some error => .error error
          | none => read { progress with pending := some (setting, value) } tokens

end Progress

/-- What the tokens of a command line ask for, or why they are not followed. -/
def parse (tokens : List Bytes) : Except UsageError Arguments :=
  Progress.start.read tokens

end Bootstrapper.CommandLine
