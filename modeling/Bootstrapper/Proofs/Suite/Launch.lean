import Bootstrapper.Proofs.ExitStatus
import Bootstrapper.Proofs.Report
import Bootstrapper.Proofs.Startup.DataFlow
import Bootstrapper.Suite.Program

/-!
# What a launch prints

A process prints what its start prints, and all else goes elsewhere: the log, what is traced, what
is done with modules. So of a launch with the demo host one of two things is seen.

* **`launch_settled`**: the start is settled, and the report of what was handed over is all that is
  printed before the host goes on.
* **`launch_not_settled`**: it is not, and at most what is wrong with the application base is printed.
-/

namespace Bootstrapper

/-! ## What is printed -/

namespace Output

@[simp] theorem stdout_nil : stdout [] = "" := rfl

@[simp] theorem stdout_cons (put : Output) (outputs : List Output) :
    stdout (put :: outputs) = put.stdoutPart ++ stdout outputs :=
  String.join_cons

@[simp] theorem stdout_append (first second : List Output) :
    stdout (first ++ second) = stdout first ++ stdout second := by
  rw [stdout, List.map_append, String.join_append]
  rfl

end Output

namespace Event

/-- What a run prints for the reader. -/
def printed (events : List Event) : String :=
  Output.stdout (outputs events)

@[simp] theorem printed_append (first second : List Event) :
    printed (first ++ second) = printed first ++ printed second := by
  rw [printed, outputs, List.filterMap_append, Output.stdout_append]
  rfl

@[simp] theorem printed_map_output (outputs : List Output) :
    printed (outputs.map .output) = Output.stdout outputs := by
  rw [printed, Event.outputs, List.filterMap_map]
  exact congrArg Output.stdout (List.filterMap_some)

/-- Only output is printed: modules and traces are not. -/
theorem printed_cons (event : Event) (events : List Event) :
    printed (event :: events) =
      event.output?.elim "" Output.stdoutPart ++ printed events := by
  rw [printed, printed, outputs, outputs, List.filterMap_cons]
  cases event.output? with
  | none => rw [Option.elim_none, String.empty_append]
  | some put => rw [Option.elim_some, Output.stdout_cons]

theorem stdout_logged (records : List Log.Record) :
    Output.stdout (records.map Output.logged) = "" := by
  induction records with
  | nil => rfl
  | cons record records ih =>
    rw [List.map_cons, Output.stdout_cons, ih]
    rfl

@[simp] theorem printed_write (trace : Trace) (message : String) (verboseOnly : Bool) :
    printed (trace.write message verboseOnly) = "" := by
  show printed (List.map .output ((trace message verboseOnly).map Output.logged)) = ""
  rw [printed_map_output, stdout_logged]

end Event

namespace Startup

/-! ## What a start prints -/

section

variable {world : World} {environment : Variables} {arguments : CommandLine.Arguments}

theorem stdout_requestedBase (explicit : Option Bytes) (environment : Variables)
    (directory : Option Bytes) :
    Output.stdout (requestedBase explicit environment directory).1 = "" := by
  unfold requestedBase
  split
  · rfl
  · split <;> rfl

/-- A full path that cannot be had is told, and nothing else is. -/
theorem stdout_settledBase (directory : Option Bytes) (requested : Bytes) :
    Output.stdout (settledBase directory requested).1 =
      match Path.full directory requested with
      | .ok _ => ""
      | .error failure => failure.message ++ "\n" := by
  unfold settledBase fullBase
  cases Path.full directory requested with
  | error failure => simp [Output.stdoutPart]
  | ok full => cases h : Utf8.decode? full <;> simp [h, Output.stdoutPart, note]

/-- What is printed before a module is asked for: nothing, or what is wrong with the base. -/
theorem stdout_prepare (world : World) (environment : Variables)
    (arguments : CommandLine.Arguments) :
    Output.stdout (prepare world environment arguments).1 = "" ∨
      ∃ requested failure problem,
        (requestedBase arguments.base environment world.directory).2 = .ok requested ∧
        Path.full world.directory requested = .error failure ∧
        prepare world environment arguments =
          ((prepare world environment arguments).1, .error problem) ∧
        Output.stdout (prepare world environment arguments).1 = failure.message ++ "\n" := by
  unfold prepare
  cases runtimeDirectory world.executable with
  | error failure => exact .inl rfl
  | ok runtime =>
    have hchosen := stdout_requestedBase arguments.base environment world.directory
    generalize requestedBase arguments.base environment world.directory = requestedBase at hchosen ⊢
    rcases requestedBase with ⟨chosen, problem | requested⟩ <;> dsimp only at hchosen ⊢
    · exact .inl (by simp [hchosen, Output.stdoutPart, note])
    have hsettled := stdout_settledBase world.directory requested
    rcases hs : settledBase world.directory requested with ⟨settled, result⟩
    rw [hs] at hsettled
    have htold : Output.stdout ([note ("Runtime directory: " ++ runtime)] ++ chosen ++ settled) =
        Output.stdout settled := by
      simp [hchosen, Output.stdoutPart, note]
    cases hfull : Path.full world.directory requested with
    | ok full =>
      rw [hfull] at hsettled
      cases result <;> exact .inl (htold.trans hsettled)
    | error failure =>
      rw [hfull] at hsettled
      obtain ⟨problem, rfl⟩ : ∃ problem, result = .error problem := by
        simp only [settledBase, fullBase, hfull, Prod.mk.injEq] at hs
        exact ⟨_, hs.2.symm⟩
      exact .inr ⟨requested, failure, problem, rfl, hfull, rfl, htold.trans hsettled⟩

theorem stdout_conclude (result : Module.Result) : Output.stdout (conclude result).1 = "" := by
  cases result <;> rfl

/-- A start that does not wait for a debugger prints what it prints before its call, and what is
printed in the call. -/
theorem printed_run (tracing : Bool) (hdebug : arguments.debug = false) :
    Event.printed (run world tracing arguments).events =
      Output.stdout (prepare world (markConsole world.environment) arguments).1 ++
        match (prepare world (markConsole world.environment) arguments).2 with
        | .error _ => ""
        | .ok preparation =>
          Event.printed (Module.call world.load (Trace.toLog tracing) preparation.host
            arguments.entryPoint preparation.payload (markConsole world.environment)).events := by
  rcases hp : prepare world (markConsole world.environment) arguments with
    ⟨told, problem | preparation⟩
  · simp [run, hdebug, hp]
  · simp [run, hdebug, hp, stdout_conclude]

end

end Startup

namespace Suite

open DemoHost (callApplicationMain)

/-! ## Launches -/

section

variable {world : Startup.World} {console : Launch.Console} {tokens : List Bytes}
  {arguments : CommandLine.Arguments} {runtime base : String} {exports : Module}

theorem stdout_launch (hparse : CommandLine.parse tokens = .ok arguments) :
    (Launch.run world console tokens).stdout =
      Event.printed (Startup.run world (isTracing world.environment) arguments).events := by
  simp only [Launch.run, hparse]
  rfl

/-- The demo host prints its report and nothing else. -/
theorem stdout_callApplicationMain (payload : Payload) (environment : Variables) :
    Output.stdout (callApplicationMain payload environment).outputs =
      reportText payload environment ++ "\n" := by
  rw [outputs_callApplicationMain, Output.stdout_cons]
  cases complaint? payload <;> simp [Output.stdoutPart]

/-- **A settled start with the demo host** prints the report of what it hands over, and ends as the
host does. -/
theorem launch_settled (hparse : CommandLine.parse tokens = .ok arguments)
    (hdebug : arguments.debug = false)
    (hruntime : Startup.runtimeDirectory world.executable = .ok runtime)
    (hnul : '\x00' ∉ runtime.toList)
    (hload : world.load (Startup.hostPath arguments.host runtime) = .ok exports)
    (hexport : exports arguments.entryPoint = some callApplicationMain)
    (h : Startup.Settled world arguments base) :
    let payload := Payload.ofTexts base runtime arguments.arguments
    let environment := markConsole world.environment
    let ended := Launch.run world console tokens
    ended.stdout = reportText payload environment ++ "\n" ∧
      ended.ending = (Launch.finish (Startup.conclude
        (.ofEntered (callApplicationMain payload environment))).2).1 := by
  intro payload environment ended
  have hcall : Module.call world.load (Trace.toLog (isTracing world.environment))
      (Startup.hostPath arguments.host runtime) arguments.entryPoint payload environment = _ :=
    Module.call_of_entered hload hexport
  refine ⟨?_, ?_⟩
  · have hprepare := (Startup.prepare_eq_ok_iff hruntime hnul).2 ⟨base, h, rfl⟩
    have htold : Output.stdout (Startup.prepare world environment arguments).1 = "" := by
      obtain htold | ⟨_, _, problem, -, -, herror, -⟩ :=
        Startup.stdout_prepare world environment arguments
      · exact htold
      · rw [herror] at hprepare
        cases hprepare
    have hprinted : Event.printed (Module.call world.load (Trace.toLog (isTracing world.environment))
        (Startup.hostPath arguments.host runtime) arguments.entryPoint payload environment).events =
          reportText payload environment ++ "\n" := by
      have hnothing : Event.printed [] = "" := rfl
      simp [hcall, Event.printed_cons, Event.output?, stdout_callApplicationMain, hnothing]
    rw [stdout_launch hparse, Startup.printed_run _ hdebug, hprepare, htold, String.empty_append]
    exact hprinted
  · obtain ⟨before, after, hrun⟩ :=
      Startup.run_of_settled (isTracing world.environment) hruntime hnul h
    rw [ending_launch hparse, hrun]
    exact congrArg (fun call => (Launch.finish (Startup.conclude call.result).2).1) hcall

/-- **A start that is not settled** ends with the status of a problem and prints at most what is
wrong with the application base. -/
theorem launch_not_settled (hparse : CommandLine.parse tokens = .ok arguments)
    (hdebug : arguments.debug = false)
    (hruntime : Startup.runtimeDirectory world.executable = .ok runtime)
    (hnul : '\x00' ∉ runtime.toList) (h : ¬ ∃ base, Startup.Settled world arguments base) :
    let ended := Launch.run world console tokens
    ended.ending = .exited 1 ∧
      (ended.stdout = "" ∨ ∃ requested failure,
        Startup.wantedBase arguments world.environment world.directory = some requested ∧
        Path.full world.directory requested = .error failure ∧
        ended.stdout = failure.message ++ "\n") := by
  intro ended
  refine ⟨?_, ?_⟩
  · obtain ⟨outputs, problem, hrun⟩ :=
      Startup.run_of_not_settled (isTracing world.environment) hruntime hnul h
    rw [ending_launch hparse, hrun]
    rfl
  · have hproblem : ∃ problem, (Startup.prepare world (markConsole world.environment)
        arguments).2 = .error problem := by
      cases hp : (Startup.prepare world (markConsole world.environment) arguments).2 with
      | error problem => exact ⟨problem, rfl⟩
      | ok preparation =>
        obtain ⟨base, hsettled, -⟩ := (Startup.prepare_eq_ok_iff hruntime hnul).1 hp
        exact absurd ⟨base, hsettled⟩ h
    obtain ⟨problem, hproblem⟩ := hproblem
    simp only [ended, stdout_launch hparse, Startup.printed_run _ hdebug, hproblem,
      String.append_empty]
    obtain htold | ⟨requested, failure, _, hrequested, hfull, -, htold⟩ :=
      Startup.stdout_prepare world (markConsole world.environment) arguments
    · exact .inl htold
    · exact .inr ⟨requested, failure, Startup.requestedBase_eq_ok_iff.1 hrequested, hfull, htold⟩

end

end Suite

end Bootstrapper
