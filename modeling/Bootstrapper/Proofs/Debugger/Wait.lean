import Bootstrapper.Debugger.Wait
import Mathlib.Data.List.Basic

/-!
# Waiting whatever becomes of the prompts

A prompt may fail in two ways, and nothing comes of that but a warning. This module says so of all
actions of a wait, in their order:

* **`Attempt`**: what one prompt comes to. There is a warning exactly if it fails, and no flush
  behind a write that failed.
* **`replay`**: the actions are told as they were done with the writer, each with its answer
  (`replay_wait`), so what an attempt came to is the writer's doing.
* **`poll_eq`**: the probes end with the first one that finds a debugger.
* **`wait_outlasts_failures`**: the main statement.
-/

namespace Bootstrapper.Debugger

/-! ## One prompt -/

/-- What an attempt to write a line comes to: the write fails, or the flush behind it, and a warning
tells the error; or neither fails. -/
inductive Attempt (line : String) : List Action → Prop
  | refused (error : IoError) :
    Attempt line [.wrote (line ++ "\n") (some error),
      .logged ⟨.warn, "dnx_pal::debugger", "Failed to write debugger prompt: " ++ error.message⟩]
  | unflushed (error : IoError) :
    Attempt line [.wrote (line ++ "\n") none, .flushed (some error),
      .logged ⟨.warn, "dnx_pal::debugger", "Failed to write debugger prompt: " ++ error.message⟩]
  | shown : Attempt line [.wrote (line ++ "\n") none, .flushed none]

/-- Does with a writer what actions tell, as long as it answers as they tell. -/
def replay {σ : Type} (writer : Writer σ) (state : σ) : List Action → Option σ
  | [] => some state
  | .wrote text error? :: actions =>
    let answer := writer.write state text
    if answer.2 = error? then replay writer answer.1 actions else none
  | .flushed error? :: actions =>
    let answer := writer.flush state
    if answer.2 = error? then replay writer answer.1 actions else none
  | _ :: actions => replay writer state actions

/-- A writer that takes every line. -/
structure Writer.NeverFails {σ : Type} (writer : Writer σ) : Prop where
  write : ∀ state text, (writer.write state text).2 = none
  flush : ∀ state, (writer.flush state).2 = none

section

variable {σ : Type} {writer : Writer σ} {state final : σ} {line : String} {actions : List Action}

theorem attempt_prompt (writer : Writer σ) (state : σ) (line : String) :
    Attempt line (prompt writer state line).2 := by
  unfold prompt
  split
  · exact .refused _
  · split
    · exact .unflushed _
    · exact .shown

theorem Attempt.probes_eq_zero (h : Attempt line actions) : probes actions = 0 := by
  cases h <;> rfl

/-! ## Replays -/

theorem replay_append (first second : List Action) :
    replay writer state (first ++ second) =
      (replay writer state first).bind fun state => replay writer state second := by
  induction first generalizing state with
  | nil => rfl
  | cons action first ih =>
    cases action with
    | probed | logged => exact ih
    | wrote text error? | flushed error? =>
      rw [List.cons_append, replay, replay]
      split_ifs
      · exact ih
      · rfl

theorem replay_prompt (writer : Writer σ) (state : σ) (line : String) :
    replay writer state (prompt writer state line).2 = some (prompt writer state line).1 := by
  unfold prompt
  split
  · next hwrite => simp [replay, hwrite]
  · next hwrite =>
    split
    · next hflush => simp [replay, hwrite, hflush]
    · next hflush => simp [replay, hwrite, hflush]

/-- A prompt fails only if the writer does. -/
theorem prompt_of_neverFails (h : writer.NeverFails) (state : σ) (line : String) :
    (prompt writer state line).2 = [.wrote (line ++ "\n") none, .flushed none] := by
  have hreplay := replay_prompt writer state line
  have hattempt := attempt_prompt writer state line
  generalize (prompt writer state line).2 = actions at hreplay hattempt
  cases hattempt with
  | refused error => simp [replay, h.write] at hreplay
  | unflushed error => simp [replay, h.write, h.flush] at hreplay
  | shown => rfl

theorem replay_promptAll (writer : Writer σ) (state : σ) (lines : List String) :
    replay writer state (promptAll writer state lines).2 =
      some (promptAll writer state lines).1 := by
  induction lines generalizing state with
  | nil => rfl
  | cons line lines ih =>
    rw [promptAll, replay_append, replay_prompt]
    exact ih _

/-- Probes do nothing with the writer. -/
theorem replay_poll (writer : Writer σ) (state : σ) (answers : List Bool) :
    replay writer state (poll answers) = some state := by
  induction answers with
  | nil => rfl
  | cons answer answers ih =>
    cases answer with
    | true => rfl
    | false => exact ih

/-- **A wait tells what was done with the writer.** -/
theorem replay_wait (writer : Writer σ) (process : String) (answers : List Bool) (state : σ) :
    replay writer state (wait writer process answers state).2 =
      some (wait writer process answers state).1 := by
  unfold wait
  split
  · rw [replay_append, replay_append, replay_append]
    show ((((replay writer state (promptAll writer state _).2).bind _).bind _).bind _) = _
    rw [replay_promptAll, Option.bind_some, replay_poll, Option.bind_some, replay_prompt]
    rfl
  · rfl

/-! ## Probes -/

theorem probes_append (first second : List Action) :
    probes (first ++ second) = probes first + probes second :=
  List.countP_append

theorem poll_eq {answers : List Bool} (h : true ∈ answers) :
    poll answers = List.replicate (answers.idxOf true) (.probed false) ++ [.probed true] := by
  induction answers with
  | nil => cases h
  | cons answer answers ih =>
    cases answer with
    | true => rfl
    | false =>
      have hmem : true ∈ answers := by simpa using h
      have hindex : (false :: answers).idxOf true = answers.idxOf true + 1 := by simp
      rw [poll, ih hmem, hindex, List.replicate_succ, List.cons_append]

theorem probes_replicate (n : Nat) : probes (List.replicate n (.probed false)) = n :=
  List.countP_replicate.trans (if_pos rfl)

/-- The actions of a wait whose first probe finds no debugger. -/
theorem wait_of_not_attached (writer : Writer σ) (process : String) {answers : List Bool}
    (state : σ) (h : true ∈ answers) :
    let opening := prompt writer state ("Process Id: " ++ process)
    let waiting := prompt writer opening.1 "Waiting for the debugger to attach..."
    let closing := prompt writer waiting.1 "Debugger attached."
    (wait writer process (false :: answers) state).2 =
      [.probed false] ++ opening.2 ++ waiting.2 ++
        List.replicate (answers.idxOf true) (.probed false) ++ [.probed true] ++ closing.2 ++
        [.logged (attachedRecord process)] := by
  intro opening waiting closing
  show .probed false :: (opening.2 ++ (waiting.2 ++ [])) ++ poll answers ++ closing.2 ++ _ = _
  rw [poll_eq h]
  simp

theorem probes_wait_of_not_attached (writer : Writer σ) (process : String) {answers : List Bool}
    (state : σ) (h : true ∈ answers) :
    probes (wait writer process (false :: answers) state).2 = answers.idxOf true + 2 := by
  -- no attempt has a probe in it
  rw [wait_of_not_attached writer process state h]
  simp only [probes_append, (attempt_prompt _ _ _).probes_eq_zero, probes_replicate]
  show 1 + 0 + 0 + _ + 1 + 0 + 0 = _
  omega

theorem output_replicate (n : Nat) :
    (List.replicate n (Action.probed false)).filterMap Action.output? = [] := by
  rw [List.filterMap_eq_nil_iff]
  intro action haction
  rw [List.eq_of_mem_replicate haction]
  rfl

/-- What a writer that takes every line is given, and the record behind it. -/
theorem output_wait_of_neverFails (hwriter : writer.NeverFails) (process : String)
    {answers : List Bool} (state : σ) (h : true ∈ answers) :
    (wait writer process (false :: answers) state).2.filterMap Action.output? =
      [.printed ("Process Id: " ++ process ++ "\n"),
        .printed "Waiting for the debugger to attach...\n", .printed "Debugger attached.\n",
        .logged (attachedRecord process)] := by
  rw [wait_of_not_attached writer process state h]
  simp only [prompt_of_neverFails hwriter, List.filterMap_append, output_replicate]
  rfl

end

/-! ## The main statement -/

/-- **A wait outlasts failures.** It ends with the first probe that finds a debugger, whatever the
writer answers. If that is not the first probe of all, three prompts are attempted, two behind the
first probe and one behind the last one, and a record tells that a debugger was found. A writer that
never fails is given the three lines, and no other record is logged. -/
theorem wait_outlasts_failures {σ : Type} (writer : Writer σ) (process : String)
    (answers : List Bool) (state : σ) (h : true ∈ answers) :
    let index := answers.idxOf true
    let run := wait writer process answers state
    let found : Log.Record :=
      ⟨.debug, "dnx_pal::debugger", "Debugger attached to process " ++ process⟩
    probes run.2 = index + 1 ∧
      replay writer state run.2 = some run.1 ∧
      (index = 0 → run = (state, [.probed true])) ∧
      (0 < index →
        (∃ opening waiting closing : List Action,
          Attempt ("Process Id: " ++ process) opening ∧
            Attempt "Waiting for the debugger to attach..." waiting ∧
            Attempt "Debugger attached." closing ∧
            run.2 = [.probed false] ++ opening ++ waiting ++
              List.replicate (index - 1) (.probed false) ++ [.probed true] ++ closing ++
              [.logged found]) ∧
        (writer.NeverFails → run.2.filterMap Action.output? =
          [.printed ("Process Id: " ++ process ++ "\n"),
            .printed "Waiting for the debugger to attach...\n", .printed "Debugger attached.\n",
            .logged found])) := by
  intro index run found
  have hreplay : replay writer state run.2 = some run.1 := replay_wait writer process answers state
  cases answers with
  | nil => cases h
  | cons answer answers =>
    cases answer with
    | true => exact ⟨rfl, hreplay, fun _ => rfl, fun hindex => absurd hindex (by simp [index])⟩
    | false =>
      have hmem : true ∈ answers := by simpa using h
      have hindex : index = answers.idxOf true + 1 := by simp [index]
      have hrun := wait_of_not_attached writer process state hmem
      have hprobes := probes_wait_of_not_attached writer process state hmem
      have hbetween : index - 1 = answers.idxOf true := by omega
      refine ⟨by rw [hindex]; exact hprobes, hreplay, fun hzero => by omega, fun _ => ⟨?_, ?_⟩⟩
      · rw [hbetween]
        exact ⟨_, _, _, attempt_prompt _ _ _, attempt_prompt _ _ _, attempt_prompt _ _ _, hrun⟩
      · exact fun hwriter => output_wait_of_neverFails hwriter process state hmem

/-- The flush behind the first prompt fails, and a full disk refuses the others: there are three
warnings, and the third probe ends the wait as it ends one that is told. -/
theorem wait_outlasts_failures_full :
    let writer := Writer.limited (some 1) (.refused "disk full") [true]
    let run := wait writer "7" [false, false, true, false] ⟨"", 0⟩
    true ∈ [false, false, true, false] ∧ probes run.2 = 3 ∧
      replay writer ⟨"", 0⟩ run.2 = some ⟨"Process Id: 7\n", 1⟩ ∧
      run.2.filterMap Action.record? = [promptFailed (.refused "flush failed"),
        promptFailed (.refused "disk full"), promptFailed (.refused "disk full"),
        attachedRecord "7"] ∧
      waitOutputs "7" [false, true] = [.printed "Process Id: 7\n",
        .printed "Waiting for the debugger to attach...\n", .printed "Debugger attached.\n",
        .logged (attachedRecord "7")] := by
  intro writer run
  have hmem : true ∈ [false, false, true, false] := by decide
  obtain ⟨hprobes, hreplay, -, -⟩ := wait_outlasts_failures writer "7" _ ⟨"", 0⟩ hmem
  obtain ⟨-, -, -, htold⟩ := wait_outlasts_failures Writer.steady "7" [false, true] () (by decide)
  exact ⟨hmem, hprobes.trans (by decide), hreplay.trans (by decide +kernel), by decide +kernel,
    (htold (by decide)).2 ⟨fun _ _ => rfl, fun _ => rfl⟩⟩

end Bootstrapper.Debugger
