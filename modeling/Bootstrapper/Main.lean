import Bootstrapper.DemoHost
import Bootstrapper.Debugger.Tracer
import Bootstrapper.Launch
import Bootstrapper.Log.Stamp
import Bootstrapper.Module.Library

/-!
# The program

Gathers what a start finds (variables, directories, the module that it will ask for), runs the
bootstrapper on it, and writes what it answers. Host modules are known by their file's name: the
demo host is built in.
-/

namespace Bootstrapper.Main

open Log (stamp)

def readVariables : List String :=
  [traceVariable, consoleVariable, baseVariable, Launch.filterVariable, Launch.styleVariable,
    Module.searchVariable] ++ colourVariables

def readEnvironment : IO Variables := do
  let mut vars := Variables.empty
  for name in readVariables do
    if let some value ← IO.getEnv name then
      vars := vars.set name (Utf8.encode value)
  return vars

def readDirectory : IO (Option Bytes) := do
  try
    return some (Utf8.encode (← IO.currentDir).toString)
  catch _ => return none

def readText (path : String) : IO String := do
  try IO.FS.readFile path catch _ => return ""

def numberAfter (mark text : String) : Nat :=
  ((Lines.firstAfter? mark text).bind fun rest =>
    Numeral.natural? 10 ((trimBlanks rest).takeWhile Char.isDigit)).getD 0

/-- The seconds since the beginning of 1970: those at the start of the system and those since. -/
def now : IO Nat := do
  let since := numberAfter "" (← readText "/proc/uptime")
  return numberAfter "btime" (← readText "/proc/stat") + since

def contentOf (path : String) (data : ByteArray) : Content :=
  let path := Utf8.encode path
  if data.isEmpty then .empty
  else if data.toList.take 4 ≠ [0x7f, 0x45, 0x4c, 0x46] then .text
  else if Path.fileName? path = some (Utf8.encode hostFileName) then .library DemoHost.exports
  else if Module.systemDirectory.isPrefixOf path then .library Module.unrelated
  else .program

def nodeAt? (path : Bytes) : IO (Option Node) := do
  let path := Utf8.decodeLossy path
  try
    let real ← IO.FS.realPath path
    if ← real.isDir then return some .directory
    else return some (.file (contentOf path (← IO.FS.readBinFile real)))
  catch _ => return none

/-- The tree in which a start looks for its module: what stands at some paths, between
directories. -/
def treeFor (directory : Option Bytes) (paths : List Bytes) : IO FileTree := do
  let nodes ← paths.mapM fun path => do
    return (Path.names (Path.join (directory.getD []) path), ← nodeAt? path)
  return { node? := fun names => (nodes.lookup names).getD (some .directory) }

def stock (libraries : Module.Libraries) (name : Bytes) : IO Module.Libraries := do
  let files ← treeFor libraries.directory (libraries.pathsOf name)
  return { libraries with files }

partial def waitForDebugger : IO Unit := do
  unless Debugger.isTraced (← readText "/proc/self/status") do
    IO.sleep Debugger.pollInterval.toUInt32
    waitForDebugger

/-- Waits for a debugger if the command line asks for it. Answers with whether it had to wait, and
with what was printed then. -/
def holdForDebugger (arguments : CommandLine.Arguments) (pid : String) : IO (Bool × String) := do
  if !arguments.debug || Debugger.isTraced (← readText "/proc/self/status") then
    return (false, "")
  let prompts := String.join ((Debugger.openingPrompts pid).map (· ++ "\n"))
  let output ← IO.getStdout
  output.putStr prompts
  output.flush
  waitForDebugger
  return (true, prompts)

def abortedStatus : Nat := 128 + Launch.abortSignal

def run (tokens : List String) : IO UInt32 := do
  let environment ← readEnvironment
  let directory ← readDirectory
  let pid := toString (numberAfter "Pid:" (← readText "/proc/self/status"))
  let executable := Utf8.encode (← IO.appPath).toString
  let words := tokens.map Utf8.encode
  let world : Startup.World :=
    { environment, directory, executable := .ok executable, process := pid, answers := []
      load := fun _ => .error "" }
  let mut held := (false, "")
  let mut libraries : Module.Libraries :=
    { files := { node? := fun _ => none }, directory, origin := Module.originOf executable
      system := Module.systemDirectory
      searched := Module.searchedDirectories environment }
  if let .ok arguments := CommandLine.parse words then
    held ← holdForDebugger arguments pid
    if let .ok preparation := (Startup.prepare world environment arguments).2 then
      libraries ← stock libraries preparation.host
  let console : Launch.Console :=
    { stamp := stamp (← now)
      isStdoutTerminal := ← (← IO.getStdout).isTty
      isStderrTerminal := ← (← IO.getStderr).isTty }
  let ended := Launch.run
    { world with
      answers := if held.1 then [false] else []
      load := libraries.load }
    console words
  IO.print (String.ofList (ended.stdout.toList.drop held.2.length))
  IO.eprint ended.stderr
  match ended.ending with
  | .exited status => return status.toUInt32
  | .aborted _ => return abortedStatus.toUInt32

end Bootstrapper.Main

def main (tokens : List String) : IO UInt32 :=
  Bootstrapper.Main.run tokens
