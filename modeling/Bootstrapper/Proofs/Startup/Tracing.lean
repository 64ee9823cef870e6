import Bootstrapper.DemoHost
import Bootstrapper.Launch
import Bootstrapper.Proofs.Module.Call
import Bootstrapper.Proofs.Startup.Preparation
import Mathlib.Data.List.Basic

/-!
# Tracing only observes

Two starts from environments that differ in the trace variable at most, with a host that does not
look at that variable. This module shows that they do the same, and says what the log of the one
that traces has more:

* **`Variables.AgreeOff`**: environments that differ in some variables at most, and
  **`Module.Overlooks`**: exports for which such environments are as good as one.
* **`Event.echoed`**: a run as it is seen, with a record of the log behind each message that is
  traced if tracing is on. A call (`Module.call_toLog`) and a start (`Startup.run_echoed`) are what
  they are without tracing, echoed.
* **`Startup.run_agreeOff`**: a start depends on the environment only through what it reads.
* **`tracing_only_observes`**: the main statement, about processes.

Records of the start and records of what is traced have one level and one target, so the log alone
would not tell them apart. The events do: what is traced is an event of its own, logged or not.
-/

namespace Bootstrapper

/-! ## Environments that differ in some variables -/

namespace Variables

/-- Two environments that give every name but these the same value. -/
def AgreeOff (names : List String) (a b : Variables) : Prop :=
  ∀ name, name ∉ names → a.get name = b.get name

variable {names : List String} {a b : Variables}

theorem AgreeOff.markConsole (h : a.AgreeOff names b) (hconsole : consoleVariable ∉ names) :
    (markConsole a).AgreeOff names (markConsole b) := by
  intro name hname
  by_cases hsame : name = consoleVariable
  · rw [hsame, get_markConsole_console, get_markConsole_console, h _ hconsole]
  · rw [get_markConsole_of_ne a hsame, get_markConsole_of_ne b hsame, h _ hname]

/-- Colours are wished for by variables of their own. -/
theorem AgreeOff.wantsColours (h : a.AgreeOff names b)
    (hcolours : ∀ name ∈ colourVariables, name ∉ names) (isTerminal : Bool) :
    wantsColours a isTerminal = wantsColours b isTerminal := by
  have hget : ∀ name ∈ colourVariables, a.get name = b.get name :=
    fun name hname => h name (hcolours name hname)
  have hfilled : ∀ name ∈ colourVariables, a.isFilled name = b.isFilled name :=
    fun name hname => by rw [isFilled, isFilled, hget name hname]
  have hholds : ∀ name ∈ colourVariables, ∀ text, a.holdsText name text = b.holdsText name text :=
    fun name hname text => by rw [holdsText, holdsText, hget name hname]
  have hdraws : drawsColours a = drawsColours b := by
    rw [drawsColours, drawsColours, hget _ (by decide), hget _ (by decide), hget _ (by decide),
      hholds _ (by decide)]
  rw [Bootstrapper.wantsColours, Bootstrapper.wantsColours, hfilled _ (by decide),
    hfilled _ (by decide), hholds _ (by decide), hdraws]

end Variables

/-! ## Echoes of what is traced -/

namespace Event

/-- An event as it is seen: a message for developers goes to the log too if tracing is on. -/
def echo (tracing : Bool) : Event → List Event
  | .traced message true =>
    .traced message true ::
      if tracing then [.output (.logged (Log.debug "dnx" message))] else []
  | event => [event]

def echoed (tracing : Bool) (events : List Event) : List Event :=
  events.flatMap (echo tracing)

/-- What the log gets of an event. -/
def recorded (tracing : Bool) : Event → List Log.Record
  | .output (.logged record) => [record]
  | .traced message true => if tracing then [Log.debug "dnx" message] else []
  | _ => []

/-- Whether an event is anything but a record of the log. -/
def isBesideLog : Event → Bool
  | .output (.logged _) => false
  | _ => true

/-- A run without its log. -/
def besideLog (events : List Event) : List Event :=
  events.filter isBesideLog

/-- The message for developers that an event traces. -/
def message? : Event → Option String
  | .traced message true => some message
  | _ => none

/-- The messages for developers that a run traces. -/
def messages (events : List Event) : List String :=
  events.filterMap message?

variable {tracing : Bool}

theorem echoed_append (a b : List Event) :
    echoed tracing (a ++ b) = echoed tracing a ++ echoed tracing b :=
  List.flatMap_append

theorem echoed_cons (event : Event) (events : List Event) :
    echoed tracing (event :: events) = echo tracing event ++ echoed tracing events :=
  List.flatMap_cons

@[simp] theorem echoed_nil : echoed tracing [] = [] := rfl

@[simp] theorem echoed_map_output (outputs : List Output) :
    echoed tracing (outputs.map .output) = outputs.map .output := by
  rw [echoed, List.flatMap_map]
  exact List.flatMap_pure_eq_map Event.output outputs

/-- With tracing on a message is written as with tracing off, echoed. -/
@[simp] theorem echoed_write (message : String) :
    echoed tracing ((Trace.toLog false).write message true) =
      (Trace.toLog tracing).write message true := by
  cases tracing <;> rfl

/-- The log of a run has what its events give it, one after the other. -/
theorem records_echoed (events : List Event) :
    Output.records (outputs (echoed tracing events)) = events.flatMap (recorded tracing) := by
  rw [outputs, Output.records, echoed, List.filterMap_flatMap, List.filterMap_flatMap]
  refine List.flatMap_congr fun event _ => ?_
  cases event with
  | output put => cases put <;> rfl
  | traced message verboseOnly => cases verboseOnly <;> cases tracing <;> rfl
  | loaded | searched | entered | released => rfl

/-- Tracing adds to the log and to nothing else. -/
theorem besideLog_echoed (events : List Event) :
    besideLog (echoed tracing events) = besideLog events := by
  have hsingle : besideLog events = events.flatMap fun event => besideLog [event] := by
    conv_lhs => rw [besideLog, ← List.flatMap_singleton' events, List.filter_flatMap]
    rfl
  rw [hsingle, besideLog, echoed, List.filter_flatMap]
  refine List.flatMap_congr fun event _ => ?_
  cases event with
  | output put => cases put <;> rfl
  | traced message verboseOnly => cases verboseOnly <;> cases tracing <;> rfl
  | loaded | searched | entered | released => rfl

/-- Two runs that are seen of one course of events are the same beside the log. -/
theorem besideLog_eq_of_echoed {a b events : List Event} {other : Bool}
    (ha : a = echoed tracing events) (hb : b = echoed other events) :
    besideLog a = besideLog b := by
  rw [ha, hb, besideLog_echoed, besideLog_echoed]

/-- What is printed is beside the log. -/
theorem stdout_besideLog (events : List Event) :
    Output.stdout (outputs (besideLog events)) = Output.stdout (outputs events) := by
  induction events with
  | nil => rfl
  | cons event events ih =>
    have hcons : ∀ (put : Output) (rest : List Output),
        Output.stdout (put :: rest) = put.stdoutPart ++ Output.stdout rest :=
      fun _ _ => String.join_cons
    rw [besideLog] at ih ⊢
    cases event with
    | output put =>
      cases put with
      | printed text | complained text =>
        rw [List.filter_cons_of_pos rfl]
        show Output.stdout (_ :: outputs _) = Output.stdout (_ :: outputs _)
        rw [hcons, hcons, ih]
      | logged record =>
        rw [List.filter_cons_of_neg (by simp [isBesideLog]), ih]
        show _ = Output.stdout (_ :: outputs _)
        rw [hcons]
        exact (String.empty_append).symm
    | traced | loaded | searched | entered | released =>
      rw [List.filter_cons_of_pos rfl]
      exact ih

@[simp] theorem messages_nil : messages [] = [] := rfl

theorem messages_cons (event : Event) (events : List Event) :
    messages (event :: events) = event.message?.toList ++ messages events := by
  rw [messages, List.filterMap_cons]
  cases event.message? <;> rfl

@[simp] theorem messages_append (a b : List Event) :
    messages (a ++ b) = messages a ++ messages b :=
  List.filterMap_append

@[simp] theorem messages_map_output (outputs : List Output) :
    messages (outputs.map .output) = [] := by
  rw [messages, List.filterMap_map]
  exact List.filterMap_eq_nil_iff.2 fun _ _ => rfl

@[simp] theorem messages_write (trace : Trace) (message : String) :
    messages (trace.write message true) = [message] := by
  rw [Trace.write, messages_cons, messages_map_output]
  rfl

/-- What is traced, by how far a run got with its host: nothing before a module is loaded, one
message for the module, and one more for its export. -/
inductive Traces (symbol : String) (events : List Event) : List String → Prop
  | nothing (hloaded : ∀ name, .loaded name true ∉ events) : Traces symbol events []
  | loaded {name : Bytes} (hloaded : .loaded name true ∈ events)
      (hfound : .searched symbol true ∉ events) :
      Traces symbol events ["Loaded module: " ++ Utf8.decodeLossy name]
  | found {name : Bytes} (hloaded : .loaded name true ∈ events)
      (hfound : .searched symbol true ∈ events) :
      Traces symbol events
        ["Loaded module: " ++ Utf8.decodeLossy name, "Found export: " ++ symbol]

/-- What is put out before and after takes a run no further. -/
theorem Traces.between {symbol : String} {events : List Event} {messages : List String}
    (h : Traces symbol events messages) (before after : List Output) :
    Traces symbol (before.map .output ++ events ++ after.map .output) messages := by
  cases h with
  | nothing hloaded => exact .nothing fun name => by simp [hloaded name]
  | loaded hloaded hfound => exact .loaded (by simp [hloaded]) (by simp [hfound])
  | found hloaded hfound => exact .found (by simp [hloaded]) (by simp [hfound])

end Event

/-! ## Calls -/

namespace Module

variable {load : Loader} {trace : Trace} {name : Bytes} {symbol : String} {payload : Payload}
  {environment a b : Variables} {names : List String}

/-- Two visits to an export that come to the same, but for these variables. -/
structure Alike (names : List String) (a b : Entered) : Prop where
  exitCode : a.exitCode = b.exitCode
  outputs : a.outputs = b.outputs
  ending : a.ending = b.ending
  environment : a.environment.AgreeOff names b.environment

/-- An export that does not look at these variables. -/
def Overlooks (names : List String) (enter : EntryPoint) : Prop :=
  ∀ payload a b, a.AgreeOff names b → Alike names (enter payload a) (enter payload b)

/-- The demo host looks at the mark of a console launch and at nothing else. -/
theorem overlooks_callApplicationMain (h : consoleVariable ∉ names) :
    Overlooks names DemoHost.callApplicationMain := by
  intro payload a b hagree
  have hreport : DemoHost.report payload a = DemoHost.report payload b := by
    rw [DemoHost.report, DemoHost.report, hagree _ h]
  have hline : DemoHost.reportLine payload a = DemoHost.reportLine payload b := by
    rw [DemoHost.reportLine, DemoHost.reportLine, hreport]
  exact ⟨rfl, congrArg (Output.printed · :: _) hline, rfl, hagree⟩

/-- A call with tracing on is the call with tracing off, echoed. -/
theorem call_toLog (tracing : Bool) :
    call load (Trace.toLog tracing) name symbol payload environment =
      { call load (Trace.toLog false) name symbol payload environment with
        events := Event.echoed tracing
          (call load (Trace.toLog false) name symbol payload environment).events } := by
  cases course load name symbol with
  | refused hload =>
    rw [call_of_refused hload, call_of_refused hload]
    rfl
  | missing hload hsymbol =>
    rw [call_of_missing hload hsymbol, call_of_missing hload hsymbol]
    simp only [Event.echoed_append, Event.echoed_cons, Event.echoed_write, Event.echoed_nil]
    rfl
  | entered hload hsymbol =>
    rw [call_of_entered hload hsymbol, call_of_entered hload hsymbol]
    simp only [Event.echoed_append, Event.echoed_cons, Event.echoed_write,
      Event.echoed_map_output, Event.echoed_nil]
    rfl

/-- A call depends on nothing in the environment that its export overlooks. -/
theorem call_agreeOff (trace : Trace) (payload : Payload)
    (hhost : ∀ exports enter, load name = .ok exports → exports symbol = some enter →
      Overlooks names enter)
    (h : a.AgreeOff names b) :
    let first := call load trace name symbol payload a
    let second := call load trace name symbol payload b
    first.events = second.events ∧ first.payload = second.payload ∧
      first.result = second.result ∧ first.environment.AgreeOff names second.environment := by
  intro first second
  cases course load name symbol with
  | refused hload =>
    simp only [first, second, call_of_refused hload, true_and]
    exact h
  | missing hload hsymbol =>
    simp only [first, second, call_of_missing hload hsymbol, true_and]
    exact h
  | @entered exports enter hload hsymbol =>
    have halike : Alike names (enter payload a) (enter payload b) :=
      hhost exports enter hload hsymbol payload a b h
    simp only [first, second, call_of_entered hload hsymbol, Result.ofEntered, halike.outputs,
      halike.exitCode, halike.ending, true_and]
    exact halike.environment

/-- What a call traces tells how far it got. -/
theorem traces_call :
    let call := call load trace name symbol payload environment
    Event.Traces symbol call.events (Event.messages call.events) := by
  intro call
  cases course load name symbol with
  | refused hload =>
    simp only [call, call_of_refused hload]
    exact .nothing fun other => by simp
  | missing hload hsymbol =>
    simp only [call, call_of_missing hload hsymbol, Event.messages_cons, Event.messages_append,
      Event.messages_write]
    exact .loaded (by simp) (by simp [Trace.write])
  | entered hload hsymbol =>
    simp only [call, call_of_entered hload hsymbol, Event.messages_cons, Event.messages_append,
      Event.messages_write, Event.messages_map_output]
    exact .found (by simp) (by simp)

end Module

namespace Startup

open Event (echoed recorded besideLog messages)

variable {world : World} {environment a b : Variables} {names : List String}
  {arguments : CommandLine.Arguments}

/-! ## Starts -/

/-- The export that a start enters overlooks these variables. -/
def HostOverlooks (names : List String) (world : World) (arguments : CommandLine.Arguments) :
    Prop :=
  ∀ runtime exports enter, runtimeDirectory world.executable = .ok runtime →
    world.load (hostPath arguments.host runtime) = .ok exports →
    exports arguments.entryPoint = some enter → Module.Overlooks names enter

/-- A start with tracing on is the start with tracing off, echoed. -/
theorem run_echoed (world : World) (tracing : Bool) (arguments : CommandLine.Arguments) :
    run world tracing arguments =
      { run world false arguments with
        events := echoed tracing (run world false arguments).events } := by
  rcases hp : prepare world (markConsole world.environment) arguments with ⟨told, result⟩
  cases result with
  | error problem => simp only [run, hp, Event.echoed_map_output]
  | ok preparation =>
    simp only [run, hp, Event.echoed_append, Event.echoed_map_output]
    rw [Module.call_toLog tracing]

/-- What is settled before the call depends on the environment through the variable of the base. -/
theorem prepare_agreeOff (h : a.AgreeOff names b) (hbase : baseVariable ∉ names) :
    prepare world a arguments = prepare world b arguments := by
  have hrequested : requestedBase arguments.base a world.directory =
      requestedBase arguments.base b world.directory := by
    have hget : VariableTable.get a baseVariable = VariableTable.get b baseVariable :=
      h baseVariable hbase
    simp only [requestedBase, environmentBase?, hget]
  rw [prepare, prepare, hrequested]

/-- **A start depends on its environment only through what it reads**: the mark of a console launch,
the variable of the base, and what its host reads. -/
theorem run_agreeOff (tracing : Bool) (h : world.environment.AgreeOff names environment)
    (hconsole : consoleVariable ∉ names) (hbase : baseVariable ∉ names)
    (hhost : HostOverlooks names world arguments) :
    let first := run world tracing arguments
    let second := run { world with environment } tracing arguments
    first.events = second.events ∧ first.ending = second.ending ∧
      first.environment.AgreeOff names second.environment := by
  intro first second
  have hmarked : (markConsole world.environment).AgreeOff names (markConsole environment) :=
    h.markConsole hconsole
  have hprepare : prepare { world with environment } (markConsole environment) arguments =
      prepare world (markConsole world.environment) arguments :=
    (prepare_agreeOff hmarked hbase).symm
  rcases hp : prepare world (markConsole world.environment) arguments with ⟨told, result⟩
  cases result with
  | error problem =>
    simp only [first, second, run, hprepare, hp, true_and]
    exact hmarked
  | ok preparation =>
    obtain ⟨runtime, hruntime, hasked⟩ := host_of_prepare (by rw [hp])
    have henter : ∀ exports enter, world.load preparation.host = .ok exports →
        exports arguments.entryPoint = some enter → Module.Overlooks names enter := by
      rw [hasked]
      exact fun exports enter => hhost runtime exports enter hruntime
    obtain ⟨hevents, -, hresult, hleft⟩ :=
      Module.call_agreeOff (Trace.toLog tracing) preparation.payload henter hmarked
    simp only [first, second, run, hprepare, hp, hevents, hresult, true_and]
    exact hleft

/-- What a start traces tells how far it got. -/
theorem traces_run (world : World) (tracing : Bool) (arguments : CommandLine.Arguments) :
    Event.Traces arguments.entryPoint (run world tracing arguments).events
      (messages (run world tracing arguments).events) := by
  cases hp : (prepare world (markConsole world.environment) arguments).2 with
  | error problem =>
    obtain ⟨outputs, hrun⟩ := run_of_problem tracing hp
    rw [hrun, Event.messages_map_output]
    exact .nothing fun name => by simp
  | ok preparation =>
    obtain ⟨before, after, hrun⟩ := run_of_prepared tracing hp
    simp only [hrun, Event.messages_append, Event.messages_map_output, List.nil_append,
      List.append_nil]
    exact Module.traces_call.between before after

/-- Two starts that differ in the trace variable at most are seen of one course of events, and end
alike. -/
theorem run_seen (hagree : world.environment.AgreeOff [traceVariable] environment)
    (hhost : HostOverlooks [traceVariable] world arguments) (tracing other : Bool) :
    let first := run world tracing arguments
    let second := run { world with environment } other arguments
    ∃ seen, first.events = echoed tracing seen ∧ second.events = echoed other seen ∧
      Event.Traces arguments.entryPoint seen (messages seen) ∧
      first.ending = second.ending ∧
      first.environment.AgreeOff [traceVariable] second.environment := by
  intro first second
  obtain ⟨hevents, hending, hleft⟩ :=
    run_agreeOff false hagree (by decide) (by decide) hhost
  have hfirst := run_echoed world tracing arguments
  have hsecond := run_echoed { world with environment } other arguments
  rw [← hevents] at hsecond
  refine ⟨(run world false arguments).events, ?_, ?_, traces_run world false arguments, ?_, ?_⟩
  · exact congrArg Outcome.events hfirst
  · exact congrArg Outcome.events hsecond
  · simpa only [first, second, hfirst, hsecond] using hending
  · simpa only [first, second, hfirst, hsecond] using hleft

/-! ## The main statement -/

/-- **Tracing only observes.** Two processes from environments that differ in the trace variable at
most, with a host that does not look at it, end in the same way and print the same. Beside the log
their starts do the same, and what is left of their environments differs in the trace variable at
most. There is one course of events of which both are seen: each with a record in its log behind
every message for developers if its trace variable is `1`, and with none otherwise. -/
theorem tracing_only_observes (world : World) (environment : Variables) (tokens : List Bytes)
    (hagree : world.environment.AgreeOff [traceVariable] environment)
    (hhost : ∀ arguments, CommandLine.parse tokens = .ok arguments →
      HostOverlooks [traceVariable] world arguments) :
    let other := { world with environment }
    let on (environment : Variables) : Bool :=
      environment.get traceVariable = some (Utf8.encode "1")
    (∀ console,
      (Launch.run world console tokens).ending = (Launch.run other console tokens).ending ∧
      (Launch.run world console tokens).stdout = (Launch.run other console tokens).stdout) ∧
    ∀ arguments, CommandLine.parse tokens = .ok arguments →
      let first := run world (isTracing world.environment) arguments
      let second := run other (isTracing environment) arguments
      first.ending = second.ending ∧
      first.environment.AgreeOff [traceVariable] second.environment ∧
      besideLog first.events = besideLog second.events ∧
      ∃ seen, first.events = echoed (on world.environment) seen ∧
        second.events = echoed (on environment) seen ∧
        Output.records (Event.outputs first.events) =
          seen.flatMap (recorded (on world.environment)) ∧
        Output.records (Event.outputs second.events) = seen.flatMap (recorded (on environment)) ∧
        Event.Traces arguments.entryPoint seen (messages seen) := by
  intro other on
  refine ⟨?_, ?_⟩
  · intro console
    cases hparse : CommandLine.parse tokens with
    | error error =>
      -- what is wrong with a command line is told before tracing is thought of
      have hcolours := hagree.wantsColours (by decide) console.isStdoutTerminal
      cases error <;> simp only [Launch.run, hparse, other, hcolours, and_self]
    | ok arguments =>
      obtain ⟨seen, hfirst, hsecond, -, hending, -⟩ := run_seen hagree (hhost arguments hparse)
        (isTracing world.environment) (isTracing environment)
      have hbeside := Event.besideLog_eq_of_echoed hfirst hsecond
      simp only [Launch.run, hparse, other, hending, true_and]
      rw [← Event.stdout_besideLog, hbeside, Event.stdout_besideLog]
  · intro arguments hparse first second
    obtain ⟨seen, hfirst, hsecond, htraces, hending, hleft⟩ := run_seen hagree
      (hhost arguments hparse) (isTracing world.environment) (isTracing environment)
    refine ⟨hending, hleft, Event.besideLog_eq_of_echoed hfirst hsecond, seen, hfirst, hsecond, ?_,
      ?_, htraces⟩
    · rw [hfirst, Event.records_echoed]
      rfl
    · rw [hsecond, Event.records_echoed]
      rfl

/-- The demo host looks at the mark of a console launch and at nothing else, so tracing its start
only adds to the log. -/
theorem tracing_only_observes_demo :
    let world : World :=
      { environment := Variables.empty.set traceVariable (Utf8.encode "1")
        directory := some (Utf8.encode "/srv")
        executable := .ok (Utf8.encode "/opt/dnx")
        process := "7"
        answers := []
        load := fun _ => .ok DemoHost.exports }
    let environment := Variables.empty.set traceVariable (Utf8.encode "11")
    let tokens := ["--host", "/h", "--", "--exit", "7"].map Utf8.encode
    let arguments : CommandLine.Arguments :=
      ⟨false, none, some (Utf8.encode "/h"), applicationMain, ["--exit", "7"]⟩
    let first := run world (isTracing world.environment) arguments
    let second := run { world with environment } (isTracing environment) arguments
    let traced := [Log.debug "dnx" "Loaded module: /h",
      Log.debug "dnx" "Found export: CallApplicationMain"]
    world.environment.AgreeOff [traceVariable] environment ∧
      CommandLine.parse tokens = .ok arguments ∧
      HostOverlooks [traceVariable] world arguments ∧
      first.ending = second.ending ∧ besideLog first.events = besideLog second.events ∧
      (∃ seen, first.events = echoed true seen ∧ second.events = echoed false seen) ∧
      (Output.records (Event.outputs first.events)).filter (· ∈ traced) = traced ∧
      (Output.records (Event.outputs second.events)).filter (· ∈ traced) = [] := by
  intro world environment tokens arguments first second traced
  have hagree : world.environment.AgreeOff [traceVariable] environment := by
    intro name hname
    have hne : name ≠ traceVariable := fun h => hname (h ▸ List.mem_singleton_self _)
    simp only [world, environment, Variables.get_set_of_ne _ _ hne]
  have hparse : CommandLine.parse tokens = .ok arguments := by rfl
  have hhost : ∀ arguments, CommandLine.parse tokens = .ok arguments →
      HostOverlooks [traceVariable] world arguments := by
    rintro _ _ runtime _ enter _ ⟨rfl⟩ hfound
    obtain ⟨-, hsame⟩ := Option.ite_none_right_eq_some.1 hfound
    obtain rfl : DemoHost.callApplicationMain = enter := Option.some.inj hsame
    exact Module.overlooks_callApplicationMain (by decide)
  obtain ⟨hending, -, hbeside, seen, hfirst, hsecond, -⟩ :=
    (tracing_only_observes world environment tokens hagree hhost).2 arguments hparse
  exact ⟨hagree, hparse, hhost arguments hparse, hending, hbeside, ⟨seen, hfirst, hsecond⟩,
    by decide +kernel, by decide +kernel⟩

end Startup

end Bootstrapper
