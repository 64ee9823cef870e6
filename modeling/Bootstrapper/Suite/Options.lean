import Bootstrapper.IoError

/-!
# The suite's command line

Three options take the token after them, whatever it is; the last one of a kind counts. Anything
else is refused, and asking for help ends the reading at once. Tokens are text; command lines with
other tokens, at which the process stops before it reads any, are left out.
-/

namespace Bootstrapper.Suite

inductive Key
  | program
  | host
  | workDirectory
deriving DecidableEq, Repr

namespace Key

def token : Key → String
  | .program => "--dnx"
  | .host => "--host"
  | .workDirectory => "--work-dir"

def ofToken? (token : String) : Option Key :=
  [Key.program, .host, .workDirectory].find? fun key => key.token = token

end Key

structure Options where
  program : Option String
  host : Option String
  workDirectory : Option String
deriving DecidableEq, Repr

inductive Refusal
  | help
  | missingValue (key : Key)
  | unknown (token : String)
  | required (key : Key)
  | unresolved (what : String) (error : IoError)
  | programNotFound (path : String)
  | hostNotFound (path : String)
deriving DecidableEq, Repr

def Refusal.message : Refusal → String
  | .help =>
    "Usage: test-runner --dnx <path> --host <path> [--work-dir <dir>]\n\nOptions:\n"
      ++ "  --dnx       Path to the dnx bootstrapper binary\n"
      ++ "  --host      Path to the dnx_host demo module\n"
      ++ "  --work-dir  Working directory for test artifacts (default: temp dir)\n"
  | .missingValue key => key.token ++ " requires a value"
  | .unknown token => "Unknown argument: " ++ token
  | .required key => key.token ++ " is required"
  | .unresolved what error => "Failed to resolve " ++ what ++ ": " ++ error.message
  | .programNotFound path => "dnx not found: " ++ path
  | .hostNotFound path => "Host module not found: " ++ path

namespace Options

def empty : Options := ⟨none, none, none⟩

def set (options : Options) (key : Key) (value : String) : Options :=
  match key with
  | .program => { options with program := some value }
  | .host => { options with host := some value }
  | .workDirectory => { options with workDirectory := some value }

def get (options : Options) : Key → Option String
  | .program => options.program
  | .host => options.host
  | .workDirectory => options.workDirectory

/-- What the tokens ask for, added to what is known so far (`from_args`). -/
def read (options : Options) : List String → Except Refusal Options
  | [] => .ok options
  | token :: tokens =>
    match Key.ofToken? token with
    | some key =>
      match tokens with
      | [] => .error (.missingValue key)
      | value :: tokens => read (options.set key value) tokens
    | none => .error (if token = "--help" ∨ token = "-h" then .help else .unknown token)

end Options

end Bootstrapper.Suite
