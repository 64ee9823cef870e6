import Bootstrapper.Environment.Contract
import Mathlib.Data.List.Induction

/-!
# What an environment holds after a run of requests

Requests come in any order, and one of them writes only if nothing has been written before. This
module says what a name holds at every moment of a run without playing the run:

* **`valueAfter`**: the last value that a name was given, and for the mark of a console launch the
  default if it was asked for and nothing was given.
* **`get_serveAll`**: that is what the environment holds (by induction on the run from its end, from
  `get_serve` for one request).
* **`Request.due`**: the answer to a request, from what the names hold at its moment.
* **`serveAll_erase`**: a request that leaves the table as it is need not be made, for any table.

**`environment_contract`** puts these together.
-/

namespace Bootstrapper

/-! ## Runs of requests -/

section

variable {σ : Type} [VariableTable σ] {table : σ} {request : Request}
  {before after : List Request}

/-- A run goes on from what its first part leaves. -/
theorem serveAll_append (table : σ) (before after : List Request) :
    serveAll table (before ++ after) =
      ((serveAll (serveAll table before).1 after).1,
        (serveAll table before).2 ++ (serveAll (serveAll table before).1 after).2) := by
  induction before generalizing table with
  | nil => rfl
  | cons request before ih => rw [List.cons_append, serveAll, ih, serveAll, List.cons_append]

theorem length_serveAll (table : σ) (requests : List Request) :
    (serveAll table requests).2.length = requests.length := by
  induction requests generalizing table with
  | nil => rfl
  | cons request requests ih => rw [serveAll, List.length_cons, ih, List.length_cons]

/-- The answer to a request, at its place among the answers. -/
theorem getElem?_serveAll (table : σ) (before : List Request) (request : Request)
    (after : List Request) :
    (serveAll table (before ++ request :: after)).2[before.length]? =
      some (request.serve (serveAll table before).1).2 := by
  rw [serveAll_append, List.getElem?_append_right (Nat.le_of_eq (length_serveAll table before)),
    length_serveAll, Nat.sub_self, serveAll, List.getElem?_cons_zero]

/-- **A request that leaves the table as it is need not be made**: the others are answered as they
are with it, and the run leaves the same. -/
theorem serveAll_erase
    (h : (request.serve (serveAll table before).1).1 = (serveAll table before).1) :
    serveAll table (before ++ after) =
      ((serveAll table (before ++ request :: after)).1,
        (serveAll table (before ++ request :: after)).2.eraseIdx before.length) := by
  rw [serveAll_append, serveAll_append, serveAll, h,
    List.eraseIdx_append_of_length_le (Nat.le_of_eq (length_serveAll table before)), length_serveAll,
    Nat.sub_self, List.eraseIdx_cons_zero]

/-- A request that only asks. -/
def Request.isRead : Request → Bool
  | .read _ | .tracing | .base => true
  | .write _ _ | .markConsole => false

theorem serve_of_isRead (h : request.isRead = true) : (request.serve table).1 = table := by
  cases request with
  | read | tracing | base => rfl
  | write | markConsole => cases h

end

/-! ## The marked environment -/

theorem markConsole_of_some {σ : Type} [VariableTable σ] {table : σ} {value : Bytes}
    (h : VariableTable.get table consoleVariable = some value) : markConsole table = table := by
  rw [markConsole, h]

theorem markConsole_of_none {σ : Type} [VariableTable σ] {table : σ}
    (h : VariableTable.get table consoleVariable = none) :
    markConsole table = (VariableTable.set table consoleVariable switchedOn).getD table := by
  rw [markConsole, h]

theorem markConsole_eq (environment : Variables) :
    markConsole environment =
      match environment.get consoleVariable with
      | some _ => environment
      | none => environment.set consoleVariable switchedOn := rfl

/-- A console launch is marked afterwards, with what the mark held before if it held anything. -/
theorem get_markConsole_console (environment : Variables) :
    (markConsole environment).get consoleVariable =
      some ((environment.get consoleVariable).getD switchedOn) := by
  rw [markConsole_eq]
  cases h : environment.get consoleVariable with
  | none => exact Variables.get_set_self environment consoleVariable switchedOn
  | some value => exact h

/-- Marking a console launch touches no other variable. -/
theorem get_markConsole_of_ne (environment : Variables) {name : String}
    (h : name ≠ consoleVariable) : (markConsole environment).get name = environment.get name := by
  rw [markConsole_eq]
  cases environment.get consoleVariable with
  | none => exact Variables.get_set_of_ne environment switchedOn h
  | some _ => rfl

/-! ## What a name holds -/

/-- The last value that pairs give a name. -/
def lastGiven (name : String) (pairs : List (String × Bytes)) : Option Bytes :=
  (pairs.reverse.find? fun pair => pair.1 = name).map Prod.snd

def Request.written? : Request → Option (String × Bytes)
  | .write name value => some (name, value)
  | _ => none

/-- What requests write, in their order. -/
def written (requests : List Request) : List (String × Bytes) :=
  requests.filterMap Request.written?

/-- What a name holds after requests to an environment made of pairs: the value that was written
last, else the one that was given last; else the mark of a console launch has its default once it
has been asked for. -/
def valueAfter (pairs : List (String × Bytes)) (requests : List Request) (name : String) :
    Option Bytes :=
  ((lastGiven name (written requests)).or (lastGiven name pairs)).or
    (if name = consoleVariable ∧ .markConsole ∈ requests then some (Utf8.encode "1") else none)

/-- What a name holds after a request, from what names hold before it. -/
def Request.leaves (held : String → Option Bytes) (name : String) : Request → Option Bytes
  | .write n value => if n = name then some value else held name
  | .markConsole =>
    if name = consoleVariable then some ((held consoleVariable).getD (Utf8.encode "1"))
    else held name
  | _ => held name

theorem lastGiven_concat (name : String) (pairs : List (String × Bytes)) (pair : String × Bytes) :
    lastGiven name (pairs ++ [pair]) =
      if pair.1 = name then some pair.2 else lastGiven name pairs := by
  rw [lastGiven, List.reverse_concat, List.find?_cons]
  by_cases h : pair.1 = name <;> simp [h, lastGiven]

/-- What a name holds once pairs have been given to an environment. -/
theorem get_foldl_set (pairs : List (String × Bytes)) (vars : Variables) (name : String) :
    (pairs.foldl (fun vars pair => vars.set pair.1 pair.2) vars).get name =
      (lastGiven name pairs).or (vars.get name) := by
  induction pairs using List.reverseRecOn with
  | nil => rfl
  | append_singleton pairs pair ih =>
    rw [lastGiven_concat, List.foldl_append, List.foldl_cons, List.foldl_nil]
    by_cases h : pair.1 = name
    · rw [if_pos h, h]
      exact Variables.get_set_self _ name pair.2
    · rw [if_neg h, ← ih]
      exact Variables.get_set_of_ne _ pair.2 (Ne.symm h)

theorem get_ofList (pairs : List (String × Bytes)) (name : String) :
    (Variables.ofList pairs).get name = lastGiven name pairs := by
  rw [Variables.ofList, get_foldl_set, Variables.get_empty, Option.or_none]

/-- One request leaves what it should. -/
theorem get_serve (vars : Variables) (request : Request) (name : String) :
    (request.serve vars).1.get name = request.leaves vars.get name := by
  cases request with
  | read | tracing | base => rfl
  | write n value =>
    simp only [Request.serve, VariableTable.set, Variables.set, Request.leaves, eq_comm]
  | markConsole =>
    by_cases hname : name = consoleVariable
    · subst hname
      rw [Request.leaves, if_pos rfl]
      exact get_markConsole_console vars
    · rw [Request.leaves, if_neg hname]
      exact get_markConsole_of_ne vars hname

theorem written_concat (requests : List Request) (request : Request) :
    written (requests ++ [request]) = written requests ++ request.written?.toList := by
  rw [written, List.filterMap_append, List.filterMap_cons]
  cases request.written? <;> rfl

/-- One more request leaves what it should. -/
theorem valueAfter_concat (pairs : List (String × Bytes)) (requests : List Request)
    (request : Request) (name : String) :
    valueAfter pairs (requests ++ [request]) name =
      request.leaves (valueAfter pairs requests) name := by
  cases request with
  | read | tracing | base =>
    simp [valueAfter, written_concat, Request.written?, Request.leaves]
  | write n value =>
    by_cases hname : n = name
    · simp [valueAfter, written_concat, Request.written?, Request.leaves, lastGiven_concat, hname]
    · simp [valueAfter, written_concat, Request.written?, Request.leaves, lastGiven_concat, hname]
  | markConsole =>
    by_cases hname : name = consoleVariable
    · subst hname
      simp only [valueAfter, written_concat, Request.written?, Request.leaves, List.mem_append,
        List.mem_singleton, Option.toList_none, List.append_nil, and_self, or_true, if_true,
        true_and]
      -- whatever was given comes before the default, whether or not it was asked for before
      cases (lastGiven consoleVariable (written requests)).or (lastGiven consoleVariable pairs) with
      | some value => rfl
      | none => split <;> rfl
    · simp [valueAfter, written_concat, Request.written?, Request.leaves, hname]

/-- **What an environment holds after a run of requests.** -/
theorem get_serveAll (pairs : List (String × Bytes)) (requests : List Request) :
    (serveAll (Variables.ofList pairs) requests).1.get = valueAfter pairs requests := by
  induction requests using List.reverseRecOn with
  | nil =>
    funext name
    simp [serveAll, get_ofList, valueAfter, written, lastGiven]
  | append_singleton requests request ih =>
    funext name
    rw [serveAll_append, valueAfter_concat, ← ih]
    exact get_serve _ request name

/-! ## What a request is answered -/

theorem fitsPathBuffer_iff {value : Bytes} :
    fitsPathBuffer value = true ↔ 1 ≤ value.length ∧ value.length ≤ 4095 := by
  unfold fitsPathBuffer Path.capacity
  rw [Bool.and_eq_true, decide_eq_true_eq, decide_eq_true_eq]
  omega

/-- The answer to a request, from what names hold at its moment. -/
def Request.due (held : String → Option Bytes) : Request → Answer
  | .read name => .value (held name)
  | .write _ value => .value (some value)
  | .tracing => .flag (held traceVariable = some (Utf8.encode "1"))
  | .markConsole => .value (some ((held consoleVariable).getD (Utf8.encode "1")))
  | .base =>
    .value ((held baseVariable).filter fun value => 1 ≤ value.length ∧ value.length ≤ 4095)

theorem answer_serve (vars : Variables) (request : Request) :
    (request.serve vars).2 = request.due vars.get := by
  cases request with
  | read | tracing => rfl
  | write name value =>
    exact congrArg Answer.value (Variables.get_set_self vars name value)
  | markConsole => exact congrArg Answer.value (get_markConsole_console vars)
  | base =>
    refine congrArg Answer.value (congrArg (Option.filter · (vars.get baseVariable)) ?_)
    funext value
    exact Bool.eq_iff_iff.2 (fitsPathBuffer_iff.trans decide_eq_true_iff.symm)

/-- Marking a console launch that is marked changes nothing. -/
theorem markConsole_of_isSome {vars : Variables} (h : (vars.get consoleVariable).isSome = true) :
    markConsole vars = vars := by
  obtain ⟨value, hvalue⟩ := Option.isSome_iff_exists.1 h
  exact markConsole_of_some hvalue

/-- **The environment over whole runs.** Whatever is requested in whatever order, a name holds the
value written last, else the value given last, and the mark of a console launch holds its default
if it was asked for and has no other value. Every request is answered from what the names hold at
its moment. Without a request that only asks, or one that marks a console launch again, all others
are answered the same and the same is left. -/
theorem environment_contract (pairs : List (String × Bytes)) (requests : List Request) :
    let run := serveAll (Variables.ofList pairs)
    (∀ name, (run requests).1.get name = valueAfter pairs requests name) ∧
    ∀ before request after, requests = before ++ request :: after →
      (run requests).2[before.length]? = some (request.due (valueAfter pairs before)) ∧
      (request.isRead = true ∨ (request = .markConsole ∧ .markConsole ∈ before) →
        run (before ++ after) =
          ((run requests).1, (run requests).2.eraseIdx before.length)) := by
  refine ⟨fun name => congrFun (get_serveAll pairs requests) name, ?_⟩
  rintro before request after rfl
  refine ⟨?_, fun h => serveAll_erase ?_⟩
  · rw [getElem?_serveAll, answer_serve, get_serveAll]
  · obtain hread | ⟨rfl, hmarked⟩ := h
    · exact serve_of_isRead hread
    · -- once the mark was asked for, it holds something
      refine markConsole_of_isSome ?_
      rw [get_serveAll, valueAfter, if_pos ⟨rfl, hmarked⟩, Option.isSome_or]
      exact Bool.or_true _

/-- An empty mark is kept, and so is one written after the default; what is asked in between can
be left out. -/
theorem environment_contract_marked :
    let pairs := [(traceVariable, Utf8.encode "1")]
    let requests : List Request :=
      [.markConsole, .tracing, .write consoleVariable [], .markConsole, .read consoleVariable]
    let run := serveAll (Variables.ofList pairs)
    (run requests).1.get consoleVariable = some [] ∧
      (run requests).2[1]? = some (.flag true) ∧ (run requests).2[3]? = some (.value (some [])) ∧
      (run (requests.eraseIdx 1)).2 = (run requests).2.eraseIdx 1 ∧
      (run (requests.eraseIdx 3)).2 = (run requests).2.eraseIdx 3 := by
  intro pairs requests run
  obtain ⟨hheld, hrun⟩ := environment_contract pairs requests
  obtain ⟨hflag, hasked⟩ := hrun [.markConsole] .tracing
    [.write consoleVariable [], .markConsole, .read consoleVariable] rfl
  obtain ⟨hmark, hagain⟩ := hrun [.markConsole, .tracing, .write consoleVariable []] .markConsole
    [.read consoleVariable] rfl
  refine ⟨(hheld consoleVariable).trans (by decide), hflag.trans (by decide),
    hmark.trans (by decide), ?_, ?_⟩
  · exact congrArg Prod.snd (hasked (.inl rfl))
  · exact congrArg Prod.snd (hagain (.inr ⟨rfl, by decide⟩))

end Bootstrapper
