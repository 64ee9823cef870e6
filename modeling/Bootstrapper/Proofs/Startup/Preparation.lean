import Bootstrapper.Proofs.Environment.Contract
import Bootstrapper.Proofs.Handover
import Bootstrapper.Proofs.Text.WellFormed
import Bootstrapper.Startup

/-!
# What is settled before a module is asked for

A start settles its directories, its host and its payload one after the other, and the first that
cannot be settled ends it. This module says what the settled things are without the order in which
they are found:

* **`wantedBase`**: the path that is to become the application base.
* **`Settled`**: that path has a full path which is text, and nothing that is handed over holds the
  character zero.
* **`prepare_eq_ok_iff`**: a start is prepared exactly if it is settled, and then for this host and
  with this payload.

`run_of_problem` and `run_of_prepared` are the two courses of a start; what is proved about starts
later is proved from them.
-/

namespace Bootstrapper

namespace Startup

/-! ## The runtime directory -/

/-- The runtime directory is that of an executable whose path is text. -/
theorem runtimeDirectory_eq_ok_iff {executable : Except IoError Bytes} {runtime : String} :
    runtimeDirectory executable = .ok runtime ↔
      ∃ path, executable = .ok (Utf8.encode path) ∧ Path.directoryOf? path = some runtime := by
  constructor
  · intro h
    unfold runtimeDirectory at h
    split at h
    · cases h
    · split at h
      · cases h
      · next hdecode =>
        split at h
        · cases h
        · next hdirectory =>
          obtain rfl := Except.ok.inj h
          exact ⟨_, congrArg Except.ok (Utf8.decode?_eq_some_iff.1 hdecode), hdirectory⟩
  · rintro ⟨path, rfl, hdirectory⟩
    simp only [runtimeDirectory, Utf8.decode?_encode, hdirectory]

/-! ## The application base -/

/-- The path that is to become the application base: what the command line says, else what the
environment says in 1 to 4095 bytes, else the current directory. -/
def wantedBase (arguments : CommandLine.Arguments) (environment : Variables)
    (directory : Option Bytes) : Option Bytes :=
  match arguments.base, environment.get baseVariable with
  | some path, _ => some path
  | none, some value =>
    if 1 ≤ value.length ∧ value.length ≤ 4095 then some value else directory
  | none, none => directory

/-- The environment's application base, by the length of its value. -/
theorem environmentBase?_eq (environment : Variables) :
    environmentBase? (markConsole environment) =
      (environment.get baseVariable).filter fitsPathBuffer := by
  have h : (markConsole environment).get baseVariable = environment.get baseVariable :=
    get_markConsole_of_ne environment (by decide)
  rw [environmentBase?]
  exact congrArg (Option.filter fitsPathBuffer) h

/-- A start looks for the wanted base. -/
theorem requestedBase_eq_ok_iff {arguments : CommandLine.Arguments} {environment : Variables}
    {directory : Option Bytes} {path : Bytes} :
    (requestedBase arguments.base (markConsole environment) directory).2 = .ok path ↔
      wantedBase arguments environment directory = some path := by
  unfold requestedBase wantedBase
  cases arguments.base with
  | some explicit => simp
  | none =>
    rw [environmentBase?_eq]
    cases environment.get baseVariable with
    | none => cases directory <;> simp
    | some value =>
      by_cases hfits : fitsPathBuffer value = true
      · simp [Option.filter, hfits, fitsPathBuffer_iff.1 hfits]
      · -- a value that does not fit counts as none
        have hrange : ¬ (1 ≤ value.length ∧ value.length ≤ 4095) :=
          fun h => hfits (fitsPathBuffer_iff.2 h)
        simp only [Option.filter, hfits, hrange]
        cases directory <;> simp

/-- A base is settled as the text of its full path. -/
theorem settledBase_eq_ok_iff {directory : Option Bytes} {requested : Bytes} {base : String} :
    (settledBase directory requested).2 = .ok base ↔
      Path.full directory requested = .ok (Utf8.encode base) := by
  unfold settledBase fullBase
  cases Path.full directory requested with
  | error failure => simp
  | ok full =>
    rw [Except.ok.injEq, ← Utf8.decode?_eq_some_iff]
    cases hd : Utf8.decode? full with
    | none => simp [hd]
    | some text => simp [hd]

/-! ## The preparation -/

/-- The start of a host is settled on a base: it is the full path of the wanted base, and nothing
that is handed over holds the character zero. -/
structure Settled (world : World) (arguments : CommandLine.Arguments) (base : String) : Prop where
  full : ∃ path, wantedBase arguments world.environment world.directory = some path ∧
    Path.full world.directory path = .ok (Utf8.encode base)
  base : '\x00' ∉ base.toList
  arguments : ∀ argument ∈ arguments.arguments, '\x00' ∉ argument.toList

/-- A preparation asks for this host and hands over this payload. -/
def preparationFor (arguments : CommandLine.Arguments) (runtime base : String) : Preparation :=
  ⟨hostPath arguments.host runtime, .ofTexts base runtime arguments.arguments⟩

theorem assemble_eq_ok_iff {arguments : CommandLine.Arguments} {runtime base : String}
    {preparation : Preparation} (hruntime : '\x00' ∉ runtime.toList) :
    assemble arguments runtime base = .ok preparation ↔
      ('\x00' ∉ base.toList ∧ ∀ argument ∈ arguments.arguments, '\x00' ∉ argument.toList)
        ∧ preparation = preparationFor arguments runtime base := by
  have htexts : (∀ text ∈ arguments.arguments ++ [base, runtime], '\x00' ∉ text.toList) ↔
      '\x00' ∉ base.toList ∧ ∀ argument ∈ arguments.arguments, '\x00' ∉ argument.toList := by
    simp only [List.forall_mem_append, List.forall_mem_cons, List.not_mem_nil, false_imp_iff,
      implies_true, and_true, hruntime, not_false_eq_true]
    exact and_comm
  rw [← htexts]
  unfold assemble
  cases hb : Payload.build base runtime arguments.arguments with
  | error failure =>
    have hnot : ¬ ∀ text ∈ arguments.arguments ++ [base, runtime], '\x00' ∉ text.toList := by
      intro hall
      rw [Payload.build_eq_ok_iff.2 ⟨hall, rfl⟩] at hb
      cases hb
    simp only [reduceCtorEq, hnot, false_and]
  | ok payload =>
    obtain ⟨hall, rfl⟩ := Payload.build_eq_ok_iff.1 hb
    rw [Except.ok.injEq, eq_comm]
    exact ⟨fun h => ⟨hall, h⟩, And.right⟩

theorem prepare_eq_ok_iff_stages {world : World} {environment : Variables}
    {arguments : CommandLine.Arguments} {runtime : String} {preparation : Preparation}
    (hruntime : runtimeDirectory world.executable = .ok runtime) :
    (prepare world environment arguments).2 = .ok preparation ↔
      ∃ requested base,
        (requestedBase arguments.base environment world.directory).2 = .ok requested ∧
        (settledBase world.directory requested).2 = .ok base ∧
        assemble arguments runtime base = .ok preparation := by
  unfold prepare
  rw [hruntime]
  rcases requestedBase arguments.base environment world.directory with ⟨chosen, problem | path⟩
  · simp
  · dsimp only
    rcases hs : settledBase world.directory path with ⟨settled, problem | base⟩
    · simp [hs]
    · simp [hs]

/-- **A start is prepared exactly if it is settled**, and then for the host that was asked for and
with a payload that carries base, runtime directory and arguments. -/
theorem prepare_eq_ok_iff {world : World} {arguments : CommandLine.Arguments} {runtime : String}
    {preparation : Preparation} (hruntime : runtimeDirectory world.executable = .ok runtime)
    (hnul : '\x00' ∉ runtime.toList) :
    (prepare world (markConsole world.environment) arguments).2 = .ok preparation ↔
      ∃ base, Settled world arguments base ∧
        preparation = preparationFor arguments runtime base := by
  rw [prepare_eq_ok_iff_stages hruntime]
  simp only [requestedBase_eq_ok_iff, settledBase_eq_ok_iff, assemble_eq_ok_iff hnul]
  constructor
  · rintro ⟨path, base, hwanted, hfull, ⟨hbase, harguments⟩, rfl⟩
    exact ⟨base, ⟨⟨path, hwanted, hfull⟩, hbase, harguments⟩, rfl⟩
  · rintro ⟨base, ⟨⟨path, hwanted, hfull⟩, hbase, harguments⟩, rfl⟩
    exact ⟨path, base, hwanted, hfull, ⟨hbase, harguments⟩, rfl⟩

/-- What a start that is prepared asks for. -/
theorem host_of_prepare {world : World} {environment : Variables}
    {arguments : CommandLine.Arguments} {preparation : Preparation}
    (h : (prepare world environment arguments).2 = .ok preparation) :
    ∃ runtime, runtimeDirectory world.executable = .ok runtime ∧
      preparation.host = hostPath arguments.host runtime := by
  cases hruntime : runtimeDirectory world.executable with
  | error failure => simp [prepare, hruntime] at h
  | ok runtime =>
    obtain ⟨requested, base, -, -, hassemble⟩ := (prepare_eq_ok_iff_stages hruntime).1 h
    refine ⟨runtime, rfl, ?_⟩
    unfold assemble at hassemble
    split at hassemble
    · cases hassemble
    · obtain rfl := Except.ok.inj hassemble
      rfl

/-! ## The two courses of a start -/

variable {world : World} {arguments : CommandLine.Arguments}

/-- A start that is not prepared puts something out and ends. -/
theorem run_of_problem {problem : Problem} (tracing : Bool)
    (h : (prepare world (markConsole world.environment) arguments).2 = .error problem) :
    ∃ outputs : List Output, run world tracing arguments =
      ⟨outputs.map .output, markConsole world.environment, .problem problem⟩ := by
  rcases hp : prepare world (markConsole world.environment) arguments with ⟨told, result⟩
  rw [hp] at h
  obtain rfl : result = .error problem := h
  simp only [run, hp]
  exact ⟨_, rfl⟩

/-- A start that is prepared puts something out, makes one call, and puts something out. -/
theorem run_of_prepared {preparation : Preparation} (tracing : Bool)
    (h : (prepare world (markConsole world.environment) arguments).2 = .ok preparation) :
    let call := Module.call world.load (Trace.toLog tracing) preparation.host
      arguments.entryPoint preparation.payload (markConsole world.environment)
    ∃ before after : List Output, run world tracing arguments =
      ⟨before.map .output ++ call.events ++ after.map .output, call.environment,
        (conclude call.result).2⟩ := by
  rcases hp : prepare world (markConsole world.environment) arguments with ⟨told, result⟩
  rw [hp] at h
  obtain rfl : result = .ok preparation := h
  simp only [run, hp]
  exact ⟨_, _, rfl⟩

end Startup

end Bootstrapper
