import Bootstrapper.Launch
import Bootstrapper.Proofs.Module.Call
import Bootstrapper.Proofs.Startup.Preparation

/-!
# What the system reports

A host returns a status and leaves an exit code; the call answers with one of them, the process
exits with that answer, repaired, and the system keeps one byte. This module follows a pair of
32-bit numbers through these steps.

* **`toInt_observedExit`**: what the system keeps is the low byte, without a sign.
* **`observedExit_exitStatus_eq_zero_iff`**: after the repair only zero is reported as zero.
* **`Reports`**: all that is promised about the reported number, and `reports_answer`, that every
  host that returns is reported so.
* **`exit_reports_failure`**: the same of a call and of the whole process.
-/

namespace Bootstrapper

/-! ## The low byte -/

/-- The low eight bits of a number in two's complement. -/
def lowByte (code : Int32) : Nat :=
  (code.toBitVec.setWidth 8).toNat

theorem lowByte_lt (code : Int32) : lowByte code < 256 :=
  (code.toBitVec.setWidth 8).isLt

/-- The system keeps the low byte, and takes it for a number that is not negative. -/
theorem toInt_observedExit (code : Int32) : (observedExit code).toInt = lowByte code := by
  have hmask : (observedExit code).toBitVec.toNat = lowByte code := by
    rw [observedExit, Int32.toBitVec_and, BitVec.toNat_and, lowByte, BitVec.toNat_setWidth]
    -- masking eight bits is taking the remainder
    exact Nat.and_two_pow_sub_one_eq_mod _ 8
  have hlt := lowByte_lt code
  rw [← Int32.toInt_toBitVec, BitVec.toInt_eq_toNat_of_lt (by omega), hmask]

theorem observedExit_eq_zero_iff {code : Int32} : observedExit code = 0 ↔ lowByte code = 0 := by
  rw [← Int32.toInt_inj, toInt_observedExit]
  exact Int.natCast_eq_zero

/-! ## The repair -/

/-- The low byte of a number that is repaired is that of one. -/
theorem exitStatus_of_lowByte_eq_zero {code : Int32} (h : code ≠ 0) (hlow : lowByte code = 0) :
    exitStatus code = 1 :=
  if_pos ⟨h, observedExit_eq_zero_iff.2 hlow⟩

/-- A number whose low byte shows is left alone. -/
theorem exitStatus_of_lowByte_ne_zero {code : Int32} (hlow : lowByte code ≠ 0) :
    exitStatus code = code :=
  if_neg fun h => hlow (observedExit_eq_zero_iff.1 h.2)

/-- Only zero is reported as zero. -/
theorem observedExit_exitStatus_eq_zero_iff {code : Int32} :
    observedExit (exitStatus code) = 0 ↔ code = 0 := by
  constructor
  · intro h
    -- a number whose low byte is zero is repaired to one, so it would not show as zero
    by_cases hlow : lowByte code = 0
    · refine Decidable.byContradiction fun hne => ?_
      rw [exitStatus_of_lowByte_eq_zero hne hlow] at h
      exact absurd h (by decide)
    · rw [exitStatus_of_lowByte_ne_zero hlow] at h
      exact absurd (observedExit_eq_zero_iff.1 h) hlow
  · rintro rfl
    decide

/-! ## From a host to the system -/

/-- What is promised about a host that returned a status and left an exit code: which of the two is
the answer of the call, and what the system reports for it. -/
structure Reports (status exitCode answer reported : Int32) : Prop where
  answered : answer = if 0 ≤ status then exitCode else status
  nonneg : 0 ≤ reported.toInt
  le_byte : reported.toInt ≤ 255
  clean_iff : reported = 0 ↔ 0 ≤ status ∧ exitCode = 0
  low : lowByte answer ≠ 0 → reported.toInt = lowByte answer
  repaired : answer ≠ 0 → lowByte answer = 0 → reported = 1

/-- The answer is zero exactly for a status that means success and an exit code of zero: a status
that means failure is negative. -/
theorem answer_eq_zero_iff {status exitCode : Int32} :
    (if 0 ≤ status then exitCode else status) = 0 ↔ 0 ≤ status ∧ exitCode = 0 := by
  split
  · next h => simp [h]
  · next h =>
    constructor
    · rintro rfl
      exact absurd (by decide) h
    · intro hs
      exact absurd hs.1 h

/-- Whatever a host returns and leaves is reported as promised. -/
theorem reports_answer (status exitCode : Int32) :
    Reports status exitCode (if 0 ≤ status then exitCode else status)
      (observedExit (exitStatus (if 0 ≤ status then exitCode else status))) where
  answered := rfl
  nonneg := by
    rw [toInt_observedExit]
    exact Int.natCast_nonneg _
  le_byte := by
    have := lowByte_lt (exitStatus (if 0 ≤ status then exitCode else status))
    rw [toInt_observedExit]
    omega
  clean_iff := observedExit_exitStatus_eq_zero_iff.trans answer_eq_zero_iff
  low := fun h => by rw [exitStatus_of_lowByte_ne_zero h, toInt_observedExit]
  repaired := fun hne hlow => by
    rw [exitStatus_of_lowByte_eq_zero hne hlow]
    decide

/-! ## From a process to the system -/

theorem conclude_eq_code_iff {result : Module.Result} {answer : Int32} :
    (Startup.conclude result).2 = .code answer ↔ result = .code answer := by
  cases result <;> simp [Startup.conclude]

/-- A start that ends with a code made a call that answered with it. -/
theorem exists_call_of_run_eq_code {world : Startup.World} {tracing : Bool}
    {arguments : CommandLine.Arguments} {answer : Int32}
    (h : (Startup.run world tracing arguments).ending = .code answer) :
    ∃ host payload environment, (Module.call world.load (Trace.toLog tracing) host
      arguments.entryPoint payload environment).result = .code answer := by
  cases hp : (Startup.prepare world (markConsole world.environment) arguments).2 with
  | error problem =>
    obtain ⟨outputs, hrun⟩ := Startup.run_of_problem tracing hp
    rw [hrun] at h
    cases h
  | ok preparation =>
    obtain ⟨before, after, hrun⟩ := Startup.run_of_prepared tracing hp
    rw [hrun] at h
    exact ⟨preparation.host, preparation.payload, markConsole world.environment,
      conclude_eq_code_iff.1 h⟩

/-- A process whose command line can be read ends as its start does. -/
theorem ending_launch {world : Startup.World} {console : Launch.Console} {tokens : List Bytes}
    {arguments : CommandLine.Arguments} (h : CommandLine.parse tokens = .ok arguments) :
    (Launch.run world console tokens).ending =
      (Launch.finish (Startup.run world (isTracing world.environment) arguments).ending).1 := by
  simp only [Launch.run, h]

/-- **A failure never looks like success.** A host that returns is answered and reported as
promised, in a call and in a process; a process with a problem is reported as one. -/
theorem exit_reports_failure :
    (∀ load trace name symbol payload environment exports enter status,
      load name = .ok exports → exports symbol = some enter →
      (enter payload environment).ending = .returned status →
      ∃ answer, (Module.call load trace name symbol payload environment).result = .code answer ∧
        Reports status (enter payload environment).exitCode answer
          (observedExit (exitStatus answer))) ∧
    ∀ world console tokens arguments, CommandLine.parse tokens = .ok arguments →
      let ending := (Startup.run world (isTracing world.environment) arguments).ending
      let ended := (Launch.run world console tokens).ending
      (∀ answer, ending = .code answer →
        ended = .exited (observedExit (exitStatus answer)).toInt.toNat ∧
        ∃ host payload environment exports enter status,
          world.load host = .ok exports ∧ exports arguments.entryPoint = some enter ∧
          (enter payload environment).ending = .returned status ∧
          Reports status (enter payload environment).exitCode answer
            (observedExit (exitStatus answer))) ∧
      ∀ problem, ending = .problem problem → ended = .exited 1 := by
  refine ⟨?_, ?_⟩
  · intro load trace name symbol payload environment exports enter status hload hsymbol hend
    exact ⟨_, Module.result_eq_code_iff.2
      ⟨exports, enter, status, hload, hsymbol, hend, rfl⟩, reports_answer _ _⟩
  · intro world console tokens arguments hparse ending ended
    refine ⟨fun answer hanswer => ⟨?_, ?_⟩, fun problem hproblem => ?_⟩
    · exact (ending_launch hparse).trans (congrArg (fun e => (Launch.finish e).1) hanswer)
    · obtain ⟨host, payload, environment, hcall⟩ := exists_call_of_run_eq_code hanswer
      obtain ⟨exports, enter, status, hload, hsymbol, hend, rfl⟩ :=
        Module.result_eq_code_iff.1 hcall
      exact ⟨host, payload, environment, exports, enter, status, hload, hsymbol, hend,
        reports_answer _ _⟩
    · exact (ending_launch hparse).trans (congrArg (fun e => (Launch.finish e).1) hproblem)

/-- A host that leaves a multiple of 256 is reported as one, and so is a start without a current
directory. -/
theorem exit_reports_failure_multiple :
    let enter : EntryPoint := fun _ environment => ⟨256, environment, [], .returned 0⟩
    let world : Startup.World :=
      { environment := .empty
        directory := none
        executable := .ok (Utf8.encode "/opt/dnx")
        process := "7"
        answers := []
        load := fun _ => .ok fun _ => some enter }
    let payload := Payload.ofTexts "/" "/opt/" []
    (∃ answer, (Module.call world.load Trace.silent [] "main" payload .empty).result =
        .code answer ∧ Reports 0 256 answer (observedExit (exitStatus answer))) ∧
      CommandLine.parse [] = .ok ⟨false, none, none, applicationMain, []⟩ ∧
      (Launch.run world (.piped "") []).ending = .exited 1 := by
  intro enter world payload
  have hparse : CommandLine.parse [] = .ok ⟨false, none, none, applicationMain, []⟩ := by rfl
  have hproblem : (Startup.run world (isTracing world.environment)
      ⟨false, none, none, applicationMain, []⟩).ending =
        .problem (.noCurrentDirectory .notFound) := by
    rfl
  exact ⟨exit_reports_failure.1 world.load Trace.silent [] "main" payload .empty
      (fun _ => some enter) enter 0 rfl rfl rfl, hparse,
    (exit_reports_failure.2 world (.piped "") [] _ hparse).2 _ hproblem⟩

end Bootstrapper
