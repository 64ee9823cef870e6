import Bootstrapper.Module.Basic

/-!
# The command line

Options come first; what follows them belongs to the application and is handed on untouched. A
token is one argument as the shell passed it.
-/

namespace Bootstrapper.CommandLine

inductive Setting
  | base
  | host
  | entryPoint
deriving DecidableEq, Repr

inductive Switch
  | debug
  | help
deriving DecidableEq, Repr

namespace Setting

def name : Setting → String
  | .base => "appbase"
  | .host => "host"
  | .entryPoint => "entry-point"

def placeholder : Setting → String
  | .base => "<DIR>"
  | .host => "<PATH>"
  | .entryPoint => "<NAME>"

end Setting

def Switch.name : Switch → String
  | .debug => "bootstrapper-debug"
  | .help => "help"

inductive Flag
  | setting (setting : Setting)
  | switch (switch : Switch)
deriving DecidableEq, Repr

namespace Flag

/-- The options in the order in which they are declared. -/
def all : List Flag :=
  [.switch .debug, .setting .base, .setting .host, .setting .entryPoint, .switch .help]

def name : Flag → String
  | .setting s => s.name
  | .switch s => s.name

end Flag

/-- What a command line asks for (`Args`). -/
structure Arguments where
  debug : Bool
  base : Option Bytes
  host : Option Bytes
  entryPoint : String
  arguments : List String
deriving DecidableEq, Repr

/-! ## Tokens -/

inductive Token
  | separator
  | switch (switch : Switch)
  | switchWith (switch : Switch) (value : Bytes)
  | setting (setting : Setting)
  | settingWith (setting : Setting) (value : Bytes)
  | malformed (name : Bytes)
  | word
deriving DecidableEq, Repr

def hyphens : Bytes := [Bytes.hyphen, Bytes.hyphen]

def setting? (name : Bytes) : Option Setting :=
  [Setting.base, .host, .entryPoint].find? fun s => Utf8.encode s.name = name

def switch? (name : Bytes) : Option Switch :=
  [Switch.debug, .help].find? fun s => Utf8.encode s.name = name

/-- Whether a token asks for help in the short form: a hyphen and one or more `h`. -/
def isShortHelp : Bytes → Bool
  | b :: c :: rest => b = Bytes.hyphen && (c :: rest).all (· = 0x68)
  | _ => false

/-- What a token that begins with two hyphens is, given the part behind them. -/
def classifyLong (body : Bytes) : Token :=
  let parts := Bytes.cut Bytes.equals body
  match parts.2 with
  | none =>
    if body.isEmpty then .separator
    else
      match setting? parts.1, switch? parts.1 with
      | some s, _ => .setting s
      | none, some s => .switch s
      | none, none => if (Utf8.decode? parts.1).isNone then .malformed parts.1 else .word
  | some value =>
    match setting? parts.1, switch? parts.1 with
    | some s, _ => .settingWith s value
    | none, some s => .switchWith s value
    | none, none => if (Utf8.decode? parts.1).isNone then .malformed parts.1 else .word

/-- What a token is. Options that are not known are words, since they belong to the application. -/
def classify (token : Bytes) : Token :=
  match Bytes.after? hyphens token with
  | some body => classifyLong body
  | none => if isShortHelp token then .switch .help else .word

end Bootstrapper.CommandLine
