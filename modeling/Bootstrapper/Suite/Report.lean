import Bootstrapper.DemoHost
import Bootstrapper.Json.Parser
import Bootstrapper.Text.Lines

/-!
# Reading a report

The report of a host is looked for in everything that a process printed: the first line with the
mark counts, whatever it holds.
-/

namespace Bootstrapper.Suite

/-- The report in what a process printed (`report`). -/
def readReport (stdout : String) : Except String Json :=
  match Lines.firstAfter? DemoHost.reportMark stdout with
  | none => .error ("No REPORT line in output: " ++ stdout)
  | some rest =>
    match Json.parse rest with
    | .ok value => .ok value
    | .error reason =>
      .error ("Bad REPORT line '" ++ String.ofList rest ++ "': " ++ reason)

end Bootstrapper.Suite
