import Bootstrapper.Environment.ProcessTable
import Bootstrapper.Proofs.Environment.Contract
import Bootstrapper.Text.Utf8.Laws
import Mathlib.Data.List.Basic

/-!
# The environment of a process and its double

A process finds a variable by looking through its entries; the double that stands in for it is
known by what each name holds. On the names of the start the two cannot be told apart:

* **`Agrees`**: every name of the start holds the same in both. `Agrees.set` keeps it, for entries
  of different names never begin alike (`after?_opening_of_ne`).
* **`Agrees.serve`**: a request of the start is answered the same, and the two agree afterwards.
* **`serve_of_isIllegal`**: what cannot stand in an entry is refused, and nothing has changed.

**`double_agrees`** says it for whole runs, also for those that go on after a refusal.
-/

namespace Bootstrapper

open Bytes (nul equals)

/-! ## Names of the start -/

/-- A name that belongs to the start, and that every environment can hold. -/
def isOwnName (name : String) : Bool :=
  "DNX_".toList <+: name.toList && '=' ∉ name.toList && '\x00' ∉ name.toList

/-- A request about names of the start, for values that every environment can hold. -/
def Request.isOwn : Request → Bool
  | .read name => isOwnName name
  | .write name value => isOwnName name && nul ∉ value
  | .tracing | .markConsole | .base => true

/-- A request to write what cannot stand in the environment of a process. -/
def Request.isIllegal : Request → Bool
  | .write name value =>
    name = "" || '=' ∈ name.toList || '\x00' ∈ name.toList || nul ∈ value
  | _ => false

section

variable {name other : String} {value entry : Bytes} {entries : List Bytes}

theorem isOwnName_iff :
    isOwnName name = true ↔
      "DNX_".toList <+: name.toList ∧ '=' ∉ name.toList ∧ '\x00' ∉ name.toList := by
  simp [isOwnName, and_assoc]

theorem ne_empty_of_own (h : isOwnName name = true) : name ≠ "" := by
  obtain ⟨⟨rest, hrest⟩, -⟩ := isOwnName_iff.1 h
  rintro rfl
  cases hrest

theorem encode_own_isPrefix (h : isOwnName name = true) :
    Utf8.encode "DNX_" <+: Utf8.encode name := by
  obtain ⟨⟨rest, hrest⟩, -⟩ := isOwnName_iff.1 h
  exact ⟨rest.flatMap String.utf8EncodeChar, by
    rw [Utf8.encode, Utf8.encode, ← hrest, List.flatMap_append]⟩

theorem equals_mem_encode : equals ∈ Utf8.encode name ↔ '=' ∈ name.toList :=
  Utf8.ascii_mem_encode (by decide)

namespace ProcessTable

theorem isAskable_eq : isAskable name = (name ≠ "" && '\x00' ∉ name.toList : Bool) := by
  have hnul : nul ∈ Utf8.encode name ↔ '\x00' ∈ name.toList := Utf8.ascii_mem_encode (by decide)
  have hempty : name.isEmpty = decide (name = "") := Bool.eq_iff_iff.2 (by simp)
  simp [isAskable, hnul, hempty]

theorem isSettable_eq :
    isSettable name = (name ≠ "" && '\x00' ∉ name.toList && '=' ∉ name.toList : Bool) := by
  simp [isSettable, isAskable_eq, equals_mem_encode]

theorem isSettable_of_own (h : isOwnName name = true) : isSettable name = true := by
  obtain ⟨-, hequals, hnul⟩ := isOwnName_iff.1 h
  simp [isSettable_eq, ne_empty_of_own h, hequals, hnul]

theorem isAskable_of_own (h : isOwnName name = true) : isAskable name = true := by
  have := isSettable_of_own h
  rw [isSettable, Bool.and_eq_true] at this
  exact this.1

/-! ## Entries -/

/-- Entries of different names do not begin alike, whatever their values are. -/
theorem after?_opening_of_ne (h : isOwnName name = true) (hother : isOwnName other = true)
    (hne : other ≠ name) (value : Bytes) :
    Bytes.after? (opening other) (opening name ++ value) = none := by
  rw [Option.eq_none_iff_forall_ne_some]
  intro rest hafter
  have hname : equals ∉ Utf8.encode name := mt equals_mem_encode.1 (isOwnName_iff.1 h).2.1
  have hname' : equals ∉ Utf8.encode other := mt equals_mem_encode.1 (isOwnName_iff.1 hother).2.1
  rw [Bytes.after?_eq_some_iff, opening, opening, List.append_assoc, List.append_assoc,
    List.singleton_append, List.singleton_append] at hafter
  -- the part before the first equals sign is the name
  have hparts := congrArg (Bytes.cut equals) hafter
  rw [Bytes.cut_append hname, Bytes.cut_append hname'] at hparts
  have hsame := congrArg Utf8.decode? (Prod.mk.inj hparts).1
  rw [Utf8.decode?_encode, Utf8.decode?_encode] at hsame
  exact hne (Option.some.inj hsame).symm

theorem findSome?_replace_self (name : String) (value : Bytes) (entries : List Bytes) :
    (replace (opening name) (opening name ++ value) entries).findSome?
      (Bytes.after? (opening name)) = some value := by
  have hfound : Bytes.after? (opening name) (opening name ++ value) = some value :=
    Bytes.after?_eq_some_iff.2 rfl
  induction entries with
  | nil => rw [replace, List.findSome?_cons, hfound]
  | cons e entries ih =>
    rw [replace]
    split
    · rw [List.findSome?_cons, hfound]
    · -- an entry of another name is passed by
      rename_i hpassed
      rw [List.findSome?_cons, Option.not_isSome_iff_eq_none.1 hpassed, ih]

theorem findSome?_replace_of_ne (h : isOwnName name = true) (hother : isOwnName other = true)
    (hne : other ≠ name) (value : Bytes) (entries : List Bytes) :
    (replace (opening name) (opening name ++ value) entries).findSome?
        (Bytes.after? (opening other)) =
      entries.findSome? (Bytes.after? (opening other)) := by
  have hpassed := after?_opening_of_ne h hother hne
  induction entries with
  | nil => rw [replace, List.findSome?_cons, hpassed]
  | cons e entries ih =>
    rw [replace]
    split
    · -- what was replaced was an entry of the name too, so it was not found before either
      rename_i hreplaced
      obtain ⟨old, hold⟩ := Option.isSome_iff_exists.1 hreplaced
      obtain rfl := Bytes.after?_eq_some_iff.1 hold
      rw [List.findSome?_cons, List.findSome?_cons, hpassed, hpassed]
    · rw [List.findSome?_cons, List.findSome?_cons, ih]

theorem get_of_own (h : isOwnName name = true) (table : ProcessTable) :
    table.get name = table.entries.findSome? (Bytes.after? (opening name)) :=
  if_pos (isAskable_of_own h)

/-- No name of the start is found where no entry begins like one. -/
theorem get_eq_none_of_ambient {ambient : ProcessTable}
    (hambient : ∀ entry ∈ ambient.entries, ¬ Utf8.encode "DNX_" <+: entry)
    (h : isOwnName name = true) : ambient.get name = none := by
  rw [get_of_own h, List.findSome?_eq_none_iff]
  intro entry hentry
  rw [Option.eq_none_iff_forall_ne_some]
  intro rest hafter
  rw [Bytes.after?_eq_some_iff, opening, List.append_assoc] at hafter
  exact hambient entry hentry
    ((encode_own_isPrefix h).trans (hafter ▸ List.prefix_append _ _))

/-- The environment of a process that is given variables one after the other. -/
def given (ambient : ProcessTable) (pairs : List (String × Bytes)) : ProcessTable :=
  pairs.foldl (fun table pair => (table.set pair.1 pair.2).getD table) ambient

end ProcessTable

end

/-! ## Agreement -/

/-- Every name of the start holds the same in the environment of a process and in its double. -/
def Agrees (table : ProcessTable) (vars : Variables) : Prop :=
  ∀ name, isOwnName name = true → table.get name = vars.get name

section

variable {table : ProcessTable} {vars : Variables} {name : String} {value : Bytes}
  {request : Request} {requests : List Request}

theorem Agrees.set (h : Agrees table vars) (hname : isOwnName name = true) (hvalue : nul ∉ value) :
    ∃ changed, table.set name value = some changed ∧ Agrees changed (vars.set name value) := by
  refine ⟨⟨ProcessTable.replace (ProcessTable.opening name)
    (ProcessTable.opening name ++ value) table.entries⟩, ?_, ?_⟩
  · rw [ProcessTable.set, if_pos]
    simp [ProcessTable.isSettable_of_own hname, hvalue]
  · intro other hother
    rw [ProcessTable.get_of_own hother]
    by_cases hne : other = name
    · subst hne
      rw [ProcessTable.findSome?_replace_self, Variables.get_set_self]
    · rw [ProcessTable.findSome?_replace_of_ne hname hother hne, Variables.get_set_of_ne _ _ hne,
        ← h other hother, ProcessTable.get_of_own hother]

/-- Two environments that are given the same variables agree, if no other entry of the process
begins like a name of the start. -/
theorem Agrees.given {ambient : ProcessTable} {pairs : List (String × Bytes)}
    (hambient : ∀ entry ∈ ambient.entries, ¬ Utf8.encode "DNX_" <+: entry)
    (hpairs : ∀ pair ∈ pairs, isOwnName pair.1 = true ∧ nul ∉ pair.2) :
    Agrees (ambient.given pairs) (Variables.ofList pairs) := by
  induction pairs using List.reverseRecOn with
  | nil => exact fun name hname => ProcessTable.get_eq_none_of_ambient hambient hname
  | append_singleton pairs pair ih =>
    have hlast := hpairs pair (by simp)
    have hagrees := ih fun p hp => hpairs p (List.mem_append_left _ hp)
    obtain ⟨changed, hset, hchanged⟩ := hagrees.set hlast.1 hlast.2
    rw [ProcessTable.given] at hset
    rw [ProcessTable.given, Variables.ofList, List.foldl_append, List.foldl_append,
      List.foldl_cons, List.foldl_nil, hset]
    exact hchanged

theorem Agrees.markConsole (h : Agrees table vars) :
    Agrees (markConsole table) (markConsole vars) := by
  have hheld : table.get consoleVariable = vars.get consoleVariable := h _ (by decide)
  cases hvalue : vars.get consoleVariable with
  | some value =>
    have hleft : Bootstrapper.markConsole table = table :=
      markConsole_of_some (hheld.trans hvalue)
    have hright : Bootstrapper.markConsole vars = vars := markConsole_of_some hvalue
    rw [hleft, hright]
    exact h
  | none =>
    obtain ⟨changed, hset, hchanged⟩ := h.set (by decide : isOwnName consoleVariable = true)
      (by decide : nul ∉ switchedOn)
    have hleft : Bootstrapper.markConsole table = changed :=
      (markConsole_of_none (hheld.trans hvalue)).trans (congrArg (·.getD table) hset)
    have hright : Bootstrapper.markConsole vars = vars.set consoleVariable switchedOn :=
      markConsole_of_none hvalue
    rw [hleft, hright]
    exact hchanged

/-- **A request of the start is answered the same**, and what agreed before agrees after it. -/
theorem Agrees.serve (h : Agrees table vars) (hown : request.isOwn = true) :
    (request.serve table).2 = (request.serve vars).2 ∧
      Agrees (request.serve table).1 (request.serve vars).1 := by
  cases request with
  | read name => exact ⟨congrArg Answer.value (h name hown), h⟩
  | tracing =>
    have hheld : table.get traceVariable = vars.get traceVariable := h _ (by decide)
    exact ⟨by simp only [Request.serve, isTracing, VariableTable.get, hheld], h⟩
  | base =>
    have hheld : table.get baseVariable = vars.get baseVariable := h _ (by decide)
    exact ⟨by simp only [Request.serve, environmentBase?, VariableTable.get, hheld], h⟩
  | markConsole =>
    exact ⟨congrArg Answer.value (h.markConsole _ (by decide)), h.markConsole⟩
  | write name value =>
    rw [Request.isOwn, Bool.and_eq_true, decide_eq_true_eq] at hown
    obtain ⟨changed, hset, hchanged⟩ := h.set hown.1 hown.2
    simp only [Request.serve, VariableTable.set, hset]
    exact ⟨congrArg Answer.value (hchanged name hown.1), hchanged⟩

/-- **What cannot stand in the environment of a process is refused**, and nothing has changed. -/
theorem serve_of_isIllegal (table : ProcessTable) (h : request.isIllegal = true) :
    request.serve table = (table, .refused) := by
  cases request with
  | read | tracing | base | markConsole => cases h
  | write name value =>
    have hset : table.set name value = none := by
      refine if_neg fun hsettable => ?_
      obtain ⟨⟨⟨hne, hnul⟩, hequals⟩, hvalue⟩ : ((name ≠ "" ∧ '\x00' ∉ name.toList) ∧
          '=' ∉ name.toList) ∧ nul ∉ value := by
        simpa [ProcessTable.isSettable_eq] using hsettable
      simp [Request.isIllegal, hne, hnul, hequals, hvalue] at h
    simp only [Request.serve, VariableTable.set, hset]

/-- The double never refuses. -/
theorem serve_ne_refused (vars : Variables) (request : Request) :
    (request.serve vars).2 ≠ .refused := by
  cases request <;> simp [Request.serve, VariableTable.set]

theorem not_isOwn_of_isIllegal (h : request.isIllegal = true) : request.isOwn = false := by
  cases request with
  | read | tracing | base | markConsole => cases h
  | write name value =>
    by_contra hown
    rw [Bool.not_eq_false, Request.isOwn, Bool.and_eq_true, decide_eq_true_eq] at hown
    obtain ⟨-, hequals, hnul⟩ := isOwnName_iff.1 hown.1
    have hempty : name ≠ "" := ne_empty_of_own hown.1
    simp [Request.isIllegal, hempty, hequals, hnul, hown.2] at h

/-! ## Runs -/

/-- Requests of the start are answered the same one after the other. -/
theorem Agrees.answers (h : Agrees table vars)
    (hown : ∀ request ∈ requests, request.isOwn = true) :
    (serveAll table requests).2 = (serveAll vars requests).2 := by
  induction requests generalizing table vars with
  | nil => rfl
  | cons request requests ih =>
    obtain ⟨hanswer, hagrees⟩ := h.serve (hown request List.mem_cons_self)
    rw [serveAll, serveAll, hanswer, ih hagrees fun r hr => hown r (List.mem_cons_of_mem _ hr)]

/-- What is not refused is answered as by a double that is not asked for what is refused. -/
theorem Agrees.answers_of_illegal (h : Agrees table vars)
    (hrequests : ∀ request ∈ requests, request.isOwn = true ∨ request.isIllegal = true) :
    (serveAll table requests).2.filter (· ≠ .refused) =
      (serveAll vars (requests.filter Request.isOwn)).2 := by
  induction requests generalizing table vars with
  | nil => rfl
  | cons request requests ih =>
    have hrest := fun r hr => hrequests r (List.mem_cons_of_mem request hr)
    obtain hown | hillegal := hrequests request List.mem_cons_self
    · obtain ⟨hanswer, hagrees⟩ := h.serve hown
      have hkept : decide ((request.serve vars).2 ≠ .refused) = true :=
        decide_eq_true (serve_ne_refused vars request)
      rw [List.filter_cons_of_pos hown, serveAll, serveAll, hanswer, List.filter_cons, if_pos hkept,
        ih hagrees hrest]
    · -- both are where they were before
      have hleft : ¬ request.isOwn = true := by simp [not_isOwn_of_isIllegal hillegal]
      rw [List.filter_cons_of_neg hleft, serveAll, serve_of_isIllegal table hillegal,
        List.filter_cons, if_neg (by simp), ih h hrest]

end

/-- **The double agrees with the environment of a process.** Both are given the same variables, and
the process has no other entry that begins like a name of the start. Requests about names of the
start are then answered the same, every one of them. Where requests to write what cannot stand in
an entry come between, each of them is refused, the rest is answered as the double answers it
without them, and leaving one out leaves all others as they are. -/
theorem double_agrees (ambient : ProcessTable) (pairs : List (String × Bytes))
    (requests : List Request)
    (hambient : ∀ entry ∈ ambient.entries, ¬ Utf8.encode "DNX_" <+: entry)
    (hpairs : ∀ pair ∈ pairs, isOwnName pair.1 = true ∧ nul ∉ pair.2)
    (hrequests : ∀ request ∈ requests, request.isOwn = true ∨ request.isIllegal = true) :
    let process := serveAll (ambient.given pairs)
    let double := serveAll (Variables.ofList pairs)
    ((∀ request ∈ requests, request.isOwn = true) →
      (process requests).2 = (double requests).2) ∧
    (process requests).2.filter (· ≠ .refused) = (double (requests.filter Request.isOwn)).2 ∧
    ∀ before request after, requests = before ++ request :: after → request.isIllegal = true →
      (process requests).2[before.length]? = some .refused ∧
      process (before ++ after) =
        ((process requests).1, (process requests).2.eraseIdx before.length) := by
  intro process double
  have hagrees := Agrees.given hambient hpairs
  refine ⟨hagrees.answers, hagrees.answers_of_illegal hrequests, ?_⟩
  rintro before request after rfl hillegal
  have hserve := serve_of_isIllegal (serveAll (ambient.given pairs) before).1 hillegal
  refine ⟨?_, serveAll_erase (congrArg Prod.fst hserve)⟩
  rw [getElem?_serveAll, hserve]

/-- A value with a zero byte and a name with an equals sign are refused between a mark that is
written and one that is asked for. -/
theorem double_agrees_refused :
    let ambient : ProcessTable := ⟨[Utf8.encode "PATH=/bin", Utf8.encode "DNXTRACE=1"]⟩
    let pairs := [(traceVariable, Utf8.encode "0"), (traceVariable, Utf8.encode "1")]
    let requests : List Request :=
      [.tracing, .write consoleVariable [nul], .write "DNX_A=B" [], .markConsole]
    let process := serveAll (ambient.given pairs)
    (∀ entry ∈ ambient.entries, ¬ Utf8.encode "DNX_" <+: entry) ∧
      (∀ pair ∈ pairs, isOwnName pair.1 = true ∧ nul ∉ pair.2) ∧
      (∀ request ∈ requests, request.isOwn = true ∨ request.isIllegal = true) ∧
      (process requests).2.filter (· ≠ .refused) =
        (serveAll (Variables.ofList pairs) [.tracing, .markConsole]).2 ∧
      (process [.tracing, .markConsole]).2 =
        (serveAll (Variables.ofList pairs) [.tracing, .markConsole]).2 ∧
      (process requests).2[1]? = some .refused ∧
      process (requests.eraseIdx 1) =
        ((process requests).1, (process requests).2.eraseIdx 1) := by
  intro ambient pairs requests process
  have hambient : ∀ entry ∈ ambient.entries, ¬ Utf8.encode "DNX_" <+: entry := by decide
  have hpairs : ∀ pair ∈ pairs, isOwnName pair.1 = true ∧ nul ∉ pair.2 := by decide
  have hrequests : ∀ request ∈ requests, request.isOwn = true ∨ request.isIllegal = true := by
    decide
  obtain ⟨-, hanswers, herase⟩ := double_agrees ambient pairs requests hambient hpairs hrequests
  obtain ⟨hrefused, hleft⟩ := herase [.tracing] (.write consoleVariable [nul])
    [.write "DNX_A=B" [], .markConsole] rfl (by decide)
  have hown : ∀ request ∈ [Request.tracing, .markConsole], request.isOwn = true := by decide
  refine ⟨hambient, hpairs, hrequests, hanswers, ?_, hrefused, hleft⟩
  exact (double_agrees ambient pairs _ hambient hpairs fun r hr => .inl (hown r hr)).1 hown

end Bootstrapper
