import Bootstrapper.DemoHost
import Bootstrapper.Proofs.Module.Call
import Bootstrapper.Proofs.Startup.Preparation

/-!
# Data flow of a start

What reaches a host, and what a start does when nothing can: the main statement is
**`run_dataFlow`**. A start asks its loader once, and only if it is settled (`Settled`); an export
that is entered finds base, runtime directory and arguments in its payload; a console launch is
marked however the start ends.

The two courses of a start, `run_of_problem` and `run_of_prepared`, put outputs around at most one
call, and outputs ask for nothing, trace nothing and enter nothing. So all that is to be known about
modules is known from that call.
-/

namespace Bootstrapper.Startup

variable {world : World} {arguments : CommandLine.Arguments} {runtime : String}

/-- The export that a start enters leaves the mark of a console launch as it finds it. -/
def LeavesConsole (load : Loader) (host : Bytes) (symbol : String) : Prop :=
  ∀ exports enter payload environment, load host = .ok exports → exports symbol = some enter →
    (enter payload environment).environment.get consoleVariable = environment.get consoleVariable

/-! ## Unsettled starts -/

/-- A start that is not settled ends with a problem before it asks for anything. -/
theorem run_of_not_settled (tracing : Bool)
    (hruntime : runtimeDirectory world.executable = .ok runtime) (hnul : '\x00' ∉ runtime.toList)
    (h : ¬ ∃ base, Settled world arguments base) :
    ∃ (outputs : List Output) (problem : Problem), run world tracing arguments =
      ⟨outputs.map .output, markConsole world.environment, .problem problem⟩ := by
  cases hp : (prepare world (markConsole world.environment) arguments).2 with
  | error problem =>
    obtain ⟨outputs, hrun⟩ := run_of_problem tracing hp
    exact ⟨outputs, problem, hrun⟩
  | ok preparation =>
    obtain ⟨base, hsettled, _⟩ := (prepare_eq_ok_iff hruntime hnul).1 hp
    exact absurd ⟨base, hsettled⟩ h

/-! ## Settled starts -/

/-- A start that is settled makes one call, with the payload of what is settled. -/
theorem run_of_settled {base : String} (tracing : Bool)
    (hruntime : runtimeDirectory world.executable = .ok runtime)
    (hnul : '\x00' ∉ runtime.toList) (h : Settled world arguments base) :
    let call := Module.call world.load (Trace.toLog tracing) (hostPath arguments.host runtime)
      arguments.entryPoint (.ofTexts base runtime arguments.arguments)
      (markConsole world.environment)
    ∃ before after : List Output, run world tracing arguments =
      ⟨before.map .output ++ call.events ++ after.map .output, call.environment,
        (conclude call.result).2⟩ :=
  run_of_prepared tracing ((prepare_eq_ok_iff hruntime hnul).2 ⟨base, h, rfl⟩)

/-- What is settled reaches the reader of the payload. -/
theorem Settled.hands {base : String} (h : Settled world arguments base)
    (hnul : '\x00' ∉ runtime.toList) (hcount : arguments.arguments.length < 0x80000000) :
    (Payload.ofTexts base runtime arguments.arguments).Hands base runtime arguments.arguments 0 := by
  refine Payload.hands_ofTexts ?_ hcount
  simp only [List.forall_mem_append, List.forall_mem_cons, List.not_mem_nil, false_imp_iff,
    implies_true, and_true]
  exact ⟨h.arguments, h.base, hnul⟩

/-- What a call leaves of the mark of a console launch, if its export leaves it alone. -/
theorem get_console_call {load : Loader} {trace : Trace} {host : Bytes} {symbol : String}
    {payload : Payload} {environment : Variables} (h : LeavesConsole load host symbol) :
    (Module.call load trace host symbol payload environment).environment.get consoleVariable =
      environment.get consoleVariable := by
  cases Module.course load host symbol with
  | refused hload => rw [Module.call_of_refused hload]
  | missing hload hsymbol => rw [Module.call_of_missing hload hsymbol]
  | entered hload hsymbol =>
    rw [Module.call_of_entered hload hsymbol]
    exact h _ _ payload environment hload hsymbol

/-! ## The main statement -/

/-- **The data flow of a start.** With a runtime directory and countable arguments, a start asks its
loader once if it is settled and never otherwise. An export that is entered finds exactly what is
settled; a start that is not settled traces nothing and enters nothing. A console launch is marked
afterwards, unless module code changes the mark. -/
theorem run_dataFlow (world : World) (tracing : Bool) (arguments : CommandLine.Arguments)
    (runtime : String) (hruntime : runtimeDirectory world.executable = .ok runtime)
    (hnul : '\x00' ∉ runtime.toList) (hcount : arguments.arguments.length < 0x80000000) :
    let outcome := run world tracing arguments
    let host := hostPath arguments.host runtime
    (∀ base, Settled world arguments base →
      Event.asked outcome.events = [host] ∧
      ∀ symbol payload, .entered symbol payload ∈ outcome.events →
        symbol = arguments.entryPoint ∧ payload.Hands base runtime arguments.arguments 0) ∧
    ((¬ ∃ base, Settled world arguments base) →
      Event.asked outcome.events = [] ∧
      (∃ problem, outcome.ending = .problem problem) ∧
      (∀ message verboseOnly, .traced message verboseOnly ∉ outcome.events) ∧
      ∀ symbol payload, .entered symbol payload ∉ outcome.events) ∧
    (((∃ base, Settled world arguments base) →
        LeavesConsole world.load host arguments.entryPoint) →
      outcome.environment.get consoleVariable =
        some ((world.environment.get consoleVariable).getD switchedOn)) := by
  intro outcome host
  refine ⟨?_, ?_, ?_⟩
  · -- settled: what is asked for and entered is what the one call asks for and enters
    intro base hsettled
    obtain ⟨before, after, hrun⟩ := run_of_settled tracing hruntime hnul hsettled
    refine ⟨?_, ?_⟩
    · simp only [outcome, hrun, Event.asked_append, Event.asked_map_output, Module.asked_call,
        List.nil_append, List.append_nil, host]
    · intro symbol payload hmem
      have hcall : .entered symbol payload ∈ (Module.call world.load (Trace.toLog tracing) host
          arguments.entryPoint (.ofTexts base runtime arguments.arguments)
          (markConsole world.environment)).events := by
        simpa [outcome, hrun] using hmem
      obtain ⟨rfl, rfl, _⟩ := Module.entered_mem_call_iff.1 hcall
      exact ⟨rfl, hsettled.hands hnul hcount⟩
  · -- not settled: nothing but outputs
    intro hnot
    obtain ⟨outputs, problem, hrun⟩ := run_of_not_settled tracing hruntime hnul hnot
    refine ⟨?_, ⟨problem, ?_⟩, ?_, ?_⟩
    · simp only [outcome, hrun, Event.asked_map_output]
    · simp only [outcome, hrun]
    · intro message verboseOnly hmem
      simp [outcome, hrun] at hmem
    · intro symbol payload hmem
      simp [outcome, hrun] at hmem
  · -- the mark is made before anything else, and only the export could change it
    intro hleaves
    by_cases hsettled : ∃ base, Settled world arguments base
    · obtain ⟨base, hbase⟩ := hsettled
      obtain ⟨before, after, hrun⟩ := run_of_settled tracing hruntime hnul hbase
      simp only [outcome, hrun]
      rw [get_console_call (hleaves ⟨base, hbase⟩), get_markConsole_console]
    · obtain ⟨outputs, problem, hrun⟩ :=
        run_of_not_settled tracing hruntime hnul hsettled
      simp only [outcome, hrun, get_markConsole_console]

/-- A relative base from the environment, seen from a current directory, reaches the demo host after
a wait for the debugger. -/
theorem run_dataFlow_relative :
    let world : World :=
      { environment := Variables.empty.set baseVariable (Utf8.encode "../b/é")
        directory := some (Utf8.encode "/a/c")
        executable := .ok (Utf8.encode "/opt/dnx")
        process := "7"
        answers := [false]
        load := fun _ => .ok DemoHost.exports }
    let arguments : CommandLine.Arguments :=
      ⟨true, none, none, applicationMain, ["--exit", ""]⟩
    runtimeDirectory world.executable = .ok "/opt/" ∧ '\x00' ∉ "/opt/".toList ∧
      arguments.arguments.length < 0x80000000 ∧ Settled world arguments "/a/b/é" ∧
      Event.asked (run world true arguments).events = [Utf8.encode "/opt/libdnx_host.so"] ∧
      (∃ payload, .entered applicationMain payload ∈ (run world true arguments).events ∧
        payload.Hands "/a/b/é" "/opt/" ["--exit", ""] 0) ∧
      (run world true arguments).environment.get consoleVariable = some (Utf8.encode "1") := by
  intro world arguments
  have hruntime : runtimeDirectory world.executable = .ok "/opt/" := by rfl
  have hnul : '\x00' ∉ "/opt/".toList := by decide +kernel
  have hcount : arguments.arguments.length < 0x80000000 := by decide
  have hsettled : Settled world arguments "/a/b/é" :=
    ⟨⟨Utf8.encode "../b/é", by decide +kernel, by rfl⟩, by decide +kernel,
      by decide +kernel⟩
  have h := run_dataFlow world true arguments "/opt/" hruntime hnul hcount
  have hentered : .entered applicationMain (.ofTexts "/a/b/é" "/opt/" ["--exit", ""]) ∈
      (run world true arguments).events := by
    decide +kernel
  refine ⟨hruntime, hnul, hcount, hsettled, (h.1 _ hsettled).1,
    ⟨_, hentered, ((h.1 _ hsettled).2 _ _ hentered).2⟩, h.2.2 fun _ => ?_⟩
  rintro _ enter payload environment ⟨rfl⟩ hfound
  obtain rfl : DemoHost.callApplicationMain = enter := Option.some.inj hfound
  rfl

end Bootstrapper.Startup
