import Bootstrapper.Files.Tree
import Bootstrapper.Launch
import Bootstrapper.Module.Library

/-!
# Programs that can be launched

A program is what it answers when it is started: with arguments, an environment, a current
directory and the files as they are. It can change the files for those that come after it. Besides
the bootstrapper itself there are stand-ins that follow a script.

Left out is what else a program may do: it reads no input, and it is over before the next one starts.
-/

namespace Bootstrapper.Suite

structure Invocation where
  arguments : List String
  environment : Variables
  directory : Option Bytes
  files : FileTree

/-- How a program ended, and the files as they are after each change that it made to them. The
files of the last change are those that it leaves behind. -/
structure Answer where
  ended : Launch.Ended
  files : List FileTree

abbrev Program := Invocation → Answer

/-- A program that leaves the files as they are. -/
def readOnly (ended : Invocation → Launch.Ended) : Program :=
  fun invocation => ⟨ended invocation, []⟩

/-- The process `dnx`, started from its executable. -/
def bootstrapper (executable : Bytes) (stamp : String) : Program :=
  readOnly fun invocation =>
    Launch.run
      { environment := invocation.environment
        directory := invocation.directory
        executable := .ok executable
        process := ""
        answers := []
        load := Module.Libraries.load {
          files := invocation.files
          directory := invocation.directory
          origin := Module.originOf executable
          system := Module.systemDirectory
          searched := Module.searchedDirectories invocation.environment } }
      (.piped stamp) (invocation.arguments.map Utf8.encode)

/-- A program that writes what a function of its arguments says and exits with a status. -/
def constant (status : Nat) (output : List String → String) : Program :=
  readOnly fun invocation => ⟨.exited status, output invocation.arguments, ""⟩

def echo : Program :=
  constant 0 fun arguments => " ".intercalate arguments ++ "\n"

/-! ## Scripts -/

structure Rule where
  argument : Option String
  condition : Option (String × Option Bytes)
  out : String
  err : String
  status : Int
deriving DecidableEq, Repr

namespace Rule

def fits (rule : Rule) (invocation : Invocation) : Bool :=
  rule.argument.all (invocation.arguments.contains ·)
    && rule.condition.all fun expected =>
      invocation.environment.get expected.1 = expected.2

end Rule

/-- The token after the first one equal to a given token; empty if there is none. -/
def following (token : String) : List String → String
  | [] => ""
  | t :: tokens => if t = token then tokens.headD "" else following token tokens

def fill (directory : String) (invocation : Invocation) (text : String) : String :=
  let here := (invocation.directory.map Utf8.decodeLossy).getD ""
  (((text.replace "\x7bcwd\x7d" here).replace "\x7bdir\x7d" directory).replace "\x7bappbase\x7d"
    (following "--appbase" invocation.arguments)).replace "\x7bhost\x7d"
    (following "--host" invocation.arguments)

/-- The program that follows the first rule that applies, and is silent if none does. -/
def scripted (directory : String) (rules : List Rule) : Program :=
  readOnly fun invocation =>
    match rules.find? (·.fits invocation) with
    | none => ⟨.exited 0, "", ""⟩
    | some rule =>
      ⟨.exited (rule.status % 256).toNat, fill directory invocation rule.out,
        fill directory invocation rule.err⟩

end Bootstrapper.Suite
