/-!
# Exit statuses

The system keeps the low eight bits of the number that a process exits with. A host's answer whose
low byte is zero would then pass for success, so it is exchanged for one.
-/

namespace Bootstrapper

/-- What the system reports for a process that exited with a number (`observed_exit_code`): its low
byte. -/
def observedExit (code : Int32) : Int32 :=
  code &&& 0xFF

/-- The number to exit with for a host's answer (`exit_status`): a failure never looks like
success. -/
def exitStatus (code : Int32) : Int32 :=
  if code ≠ 0 ∧ code &&& 0xFF = 0 then 1 else code

end Bootstrapper
