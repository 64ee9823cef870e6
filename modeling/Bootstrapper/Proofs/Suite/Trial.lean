import Bootstrapper.Proofs.Files.Tree
import Bootstrapper.Suite.Trial

/-!
# Trials that come to their end

`Gives trial stage value after` says that a trial does not give up: played on a stage it comes to a
value and leaves another stage. One equivalence for each thing that a trial can do turns a scenario
into the conditions that it checks, in their order, so that no proof about a scenario has to look
into how trials are run. A launch is looked into once (`Setting.launch_eq_ok`).
-/

namespace Bootstrapper.Suite

/-- Two computations in a row succeed exactly if both do. -/
theorem bind_eq_ok_iff {ε α β : Type} {first : Except ε α} {second : α → Except ε β} {result : β} :
    first >>= second = .ok result ↔ ∃ value, first = .ok value ∧ second value = .ok result := by
  cases first with
  | error error => exact ⟨nofun, fun ⟨_, h, _⟩ => nomatch h⟩
  | ok value => exact ⟨fun h => ⟨value, rfl, h⟩, fun ⟨_, rfl, h⟩ => h⟩

/-! ## Launches -/

/-- A directory can be entered. -/
theorem Place.enter_eq_ok {place : Place} {path : Bytes}
    (h : place.files.isDirectory place.directory path = true) :
    place.enter path = .ok (place.files.realPath place.directory path).toOption := by
  rw [enter, FileTree.isDirectory_iff.1 h]

namespace Setting

variable {setting : Setting} {place : Place} {program : Program}

theorem program_eq_ok
    (hfile : place.files.lookup place.directory setting.config.program = .ok (.file .program))
    (hprogram : setting.program? setting.config.program = some program) :
    setting.program place = .ok program := by
  rw [Setting.program, hfile, hprogram]
  rfl

/-- **A launch that comes to its end** is what the program answers where it is started, and the files
are left as they are after its last change. -/
theorem launch_eq_ok (arguments : List String) (pairs : List (String × String))
    {directory here : Option Bytes}
    (hpath : directory.isSome = true → Path.isAbsolute setting.config.program = true)
    (henter : directory.elim (.ok place.directory) place.enter = .ok here)
    (hprogram : setting.program place = .ok program) :
    let answer := program ⟨arguments, Trial.environment setting pairs, here, place.files⟩
    setting.launch place arguments pairs directory =
      .ok (Run.ofEnded answer.ended, answer.files.foldl Place.change place) := by
  intro answer
  have hrefused : (directory.isSome && !Path.isAbsolute setting.config.program) = false := by
    cases h : directory.isSome
    · rfl
    · rw [hpath h]
      rfl
  rw [launch, hrefused, if_neg Bool.false_ne_true, start, henter, hprogram]
  rfl

/-- What is asked of a launch that comes to its end is asked of what it comes to. -/
theorem exists_launched_iff {arguments : List String} {pairs : List (String × String)}
    {directory : Option Bytes} {run : Run} {after : Place} {asked : Run → Place → Prop}
    (h : setting.launch place arguments pairs directory = .ok (run, after)) :
    (∃ run place', setting.launch place arguments pairs directory = .ok (run, place') ∧
      asked run place') ↔ asked run after := by
  constructor
  · rintro ⟨_, _, h', hasked⟩
    cases h.symm.trans h'
    exact hasked
  · exact fun hasked => ⟨run, after, h, hasked⟩

end Setting

/-! ## Trials -/

namespace Trial

/-- What a trial comes to, played on a stage. -/
def outcome {α : Type} (trial : Trial α) (stage : Stage) : Except String α × Stage :=
  trial.run.run stage

def Gives {α : Type} (trial : Trial α) (stage : Stage) (value : α) (after : Stage) : Prop :=
  trial.outcome stage = (.ok value, after)

/-- A trial that is played on a stage comes to its end. -/
def Passes (trial : Trial Unit) (stage : Stage) : Prop :=
  ∃ after, trial.Gives stage () after

theorem not_passes_of_error {trial : Trial Unit} {stage : Stage} {reason : String}
    (h : (trial.outcome stage).1 = .error reason) : ¬ trial.Passes stage := by
  rintro ⟨after, hgives⟩
  rw [Gives] at hgives
  rw [hgives] at h
  cases h

section

variable {α β : Type} {stage after : Stage}

@[simp] theorem gives_pure {value result : α} :
    Gives (pure value) stage result after ↔ value = result ∧ stage = after := by
  show ((Except.ok value, stage) : Except String α × Stage) = (.ok result, after) ↔ _
  simp

@[simp] theorem gives_throw {reason : String} {result : α} :
    ¬ Gives (throw reason) stage result after := by
  intro h
  have h : ((Except.error reason, stage) : Except String α × Stage) = (.ok result, after) := h
  cases h

/-- **A trial in two parts** comes to its end exactly if both parts do, one after the other. -/
theorem gives_bind {first : Trial α} {second : α → Trial β} {result : β} :
    Gives (first >>= second) stage result after ↔
      ∃ value between, first.Gives stage value between ∧
        (second value).Gives between result after := by
  have hboth : (first >>= second).outcome stage =
      match first.outcome stage with
      | (.ok value, between) => (second value).outcome between
      | (.error reason, between) => (.error reason, between) := by
    simp only [outcome, ExceptT.run_bind, StateT.run_bind]
    show (match first.run.run stage with | (r, s) => _) = _
    rcases first.run.run stage with ⟨reason | value, between⟩ <;> rfl
  unfold Gives
  rw [hboth]
  rcases first.outcome stage with ⟨reason | value, between⟩
  · simp
  · simp only [Prod.mk.injEq, Except.ok.injEq]
    constructor
    · exact fun h => ⟨value, between, ⟨rfl, rfl⟩, h⟩
    · rintro ⟨_, _, ⟨rfl, rfl⟩, h⟩
      exact h

theorem passes_bind {first : Trial α} {second : α → Trial Unit} :
    Passes (first >>= second) stage ↔
      ∃ value between, first.Gives stage value between ∧ (second value).Passes between := by
  simp only [Passes, gives_bind]
  constructor
  · rintro ⟨after, value, between, hfirst, hsecond⟩
    exact ⟨value, between, hfirst, after, hsecond⟩
  · rintro ⟨value, between, hfirst, after, hsecond⟩
    exact ⟨after, value, between, hfirst, hsecond⟩

@[simp] theorem gives_modify {change : Stage → Stage} {value : PUnit} :
    Gives (modify change) stage value after ↔ change stage = after := by
  show ((Except.ok (), change stage) : Except String Unit × Stage) = (.ok value, after) ↔ _
  simp

@[simp] theorem gives_set {next : Stage} {value : PUnit} :
    Gives (set next) stage value after ↔ next = after := by
  show ((Except.ok (), next) : Except String Unit × Stage) = (.ok value, after) ↔ _
  simp

theorem gives_say {line : String} {value : Unit} :
    Gives (say line) stage value after ↔
      after = { stage with printed := stage.printed ++ line ++ "\n" } := by
  rw [say, gives_modify, eq_comm]

theorem passes_say {line : String} : Passes (say line) stage :=
  ⟨_, gives_say.2 rfl⟩

/-- What is printed at the end does not decide. -/
theorem passes_bind_say {trial : Trial PUnit} {line : String} :
    Passes (trial >>= fun _ => say line) stage ↔ Passes trial stage := by
  simp only [passes_bind, passes_say, and_true]
  exact ⟨fun ⟨_, after, h⟩ => ⟨after, h⟩, fun ⟨after, h⟩ => ⟨(), after, h⟩⟩

@[simp] theorem gives_get {value : Stage} :
    Gives get stage value after ↔ stage = value ∧ stage = after := by
  show ((Except.ok stage, stage) : Except String Stage × Stage) = (.ok value, after) ↔ _
  simp

theorem gives_expect {condition : Bool} {reason : String} {value : Unit} :
    Gives (expect condition reason) stage value after ↔ condition = true ∧ stage = after := by
  cases condition <;> simp [expect]

theorem gives_orElse {value? : Option α} {reason : String} {value : α} :
    Gives (orElse value? reason) stage value after ↔ value? = some value ∧ stage = after := by
  cases value? <;> simp [orElse]

/-- A directory is made below the work directory. -/
theorem gives_makeDirectory {setting : Setting} {name : String} {path : Bytes} :
    Gives (makeDirectory setting name) stage path after ↔
      path = Path.join setting.config.workDirectory (Utf8.encode name) ∧
        (stage.files.ensureAll stage.directory path).2 = .ok () ∧
        after = { stage with files := (stage.files.ensureAll stage.directory path).1 } := by
  simp only [makeDirectory, gives_bind, gives_get, gives_set]
  constructor
  · rintro ⟨_, _, ⟨rfl, rfl⟩, ⟨⟩, _, rfl, h⟩
    split at h
    · rename_i made
      obtain ⟨rfl, rfl⟩ := gives_pure.1 h
      exact ⟨rfl, made, rfl⟩
    · exact absurd h gives_throw
  · rintro ⟨rfl, made, rfl⟩
    refine ⟨stage, stage, ⟨rfl, rfl⟩, (), _, rfl, ?_⟩
    rw [made]
    exact gives_pure.2 ⟨rfl, rfl⟩

/-- A launch is that of the setting, in the place where the stage is. -/
theorem gives_launch {setting : Setting} {arguments : List String} {pairs : List (String × String)}
    {directory : Option Bytes} {run : Run} :
    Gives (launch setting arguments pairs directory) stage run after ↔
      ∃ place, setting.launch stage.toPlace arguments pairs directory = .ok (run, place) ∧
        { stage with toPlace := place } = after := by
  simp only [launch, gives_bind, gives_get]
  constructor
  · rintro ⟨_, _, ⟨rfl, rfl⟩, h⟩
    split at h
    · exact absurd h gives_throw
    · rename_i launched place hlaunched
      obtain ⟨⟨⟩, _, hset, hpure⟩ := gives_bind.1 h
      obtain rfl := gives_set.1 hset
      obtain ⟨rfl, rfl⟩ := gives_pure.1 hpure
      exact ⟨place, hlaunched, rfl⟩
  · rintro ⟨place, hlaunched, rfl⟩
    refine ⟨stage, stage, ⟨rfl, rfl⟩, ?_⟩
    rw [hlaunched]
    exact gives_bind.2 ⟨(), _, gives_set.2 rfl, gives_pure.2 ⟨rfl, rfl⟩⟩

theorem gives_report {run : Run} {value : Json} :
    Gives (report run) stage value after ↔ readReport run.stdout = .ok value ∧ stage = after := by
  unfold report
  cases readReport run.stdout <;> simp

end

end Trial

end Bootstrapper.Suite
