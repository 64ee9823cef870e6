import Bootstrapper.CommandLine.Parser
import Bootstrapper.Text.Utf8.Laws

/-!
# Written command lines

The same arguments can be written as a command line in many ways: the options in any order, the
value of a setting behind an equals sign or in a token of its own, the entry point not at all if it
is the usual one. This module shows that reading undoes them all, and that nothing behind the
options is read as one:

* **`Written`**: the tokens that write a list of choices, and **`Arguments.ChosenBy`**: the lists of
  choices that come to given arguments.
* **`Progress.Has`**: what has been read comes to a list of choices. A value that is pending counts
  as accepted, so both ways to write a setting lead to the same; this is the invariant.
* **`Progress.read_spelled`**: reading the tokens of one more choice adds exactly that one, and
  **`Progress.read_written`** those of a list.
* **`Progress.finish_eq_ok`**: the choices come to the arguments that they were made for.
* **`parse_written`**: so a written command line is read as the arguments that it was written for.
-/

namespace Bootstrapper.CommandLine

open Bytes (hyphen equals)

/-! ## Ways to write options -/

/-- An option as it is meant: the switch that is on, or a setting with its value. -/
inductive Choice
  | debug
  | setting (setting : Setting) (value : Bytes)
deriving DecidableEq, Repr

def Choice.flag : Choice → Flag
  | .debug => .switch .debug
  | .setting s _ => .setting s

/-- Whether a choice can be accepted: directories and files are not empty, an export's name is
text. -/
def Choice.IsAllowed : Choice → Prop
  | .debug => True
  | .setting .entryPoint value => ∃ text, value = Utf8.encode text
  | .setting _ value => value ≠ []

/-- The token that names an option. -/
def Flag.token (flag : Flag) : Bytes :=
  hyphens ++ Utf8.encode flag.name

/-- The tokens that write one choice. A value stands behind an equals sign or, if it does not begin
with a hyphen, in a token of its own. -/
inductive Spelled : Choice → List Bytes → Prop
  | debug : Spelled .debug [(Flag.switch .debug).token]
  | joined (s : Setting) (value : Bytes) :
      Spelled (.setting s value) [(Flag.setting s).token ++ equals :: value]
  | apart (s : Setting) (value : Bytes) (hvalue : value.head? ≠ some hyphen) :
      Spelled (.setting s value) [(Flag.setting s).token, value]

/-- The tokens that write choices, one after the other. -/
inductive Written : List Choice → List Bytes → Prop
  | none : Written [] []
  | more {choice : Choice} {word : List Bytes} {choices : List Choice} {tokens : List Bytes}
      (hword : Spelled choice word) (h : Written choices tokens) :
      Written (choice :: choices) (word ++ tokens)

namespace Arguments

/-- The choices that arguments come from, but for that of the entry point. -/
def required (arguments : Arguments) : List Choice :=
  (if arguments.debug then [.debug] else [])
    ++ (arguments.base.map (Choice.setting .base)).toList
    ++ (arguments.host.map (Choice.setting .host)).toList

def entryChoice (arguments : Arguments) : Choice :=
  .setting .entryPoint (Utf8.encode arguments.entryPoint)

/-- The choices that come to these arguments: each once and in any order. The usual entry point
need not be chosen. -/
inductive ChosenBy (arguments : Arguments) (choices : List Choice) : Prop
  | named (h : choices.Perm (arguments.entryChoice :: arguments.required))
  | usual (hname : arguments.entryPoint = applicationMain) (h : choices.Perm arguments.required)

end Arguments

/-! ## What the tokens are -/

theorem classify_hyphens_append (body : Bytes) : classify (hyphens ++ body) = classifyLong body := by
  have hafter : Bytes.after? hyphens (hyphens ++ body) = some body :=
    Bytes.after?_eq_some_iff.2 rfl
  rw [classify, hafter]

theorem classify_separator : classify hyphens = .separator := by decide

theorem classify_debug : classify (Flag.switch .debug).token = .switch .debug := by
  decide +kernel

theorem classify_setting (s : Setting) : classify (Flag.setting s).token = .setting s := by
  cases s <;> decide +kernel

theorem classify_joined (s : Setting) (value : Bytes) :
    classify ((Flag.setting s).token ++ equals :: value) = .settingWith s value := by
  have hequals : equals ∉ Utf8.encode s.name := by
    cases s <;> decide +kernel
  have hname : setting? (Utf8.encode s.name) = some s := by
    cases s <;> decide +kernel
  rw [Flag.token, List.append_assoc, classify_hyphens_append, classifyLong]
  simp only [Flag.name, Bytes.cut_append hequals, hname]

/-- What does not begin with a hyphen is a word. -/
theorem classify_word {token : Bytes} (h : token.head? ≠ some hyphen) : classify token = .word := by
  unfold classify
  cases token with
  | nil => rfl
  | cons b rest =>
    have hb : ¬ hyphen = b := fun he => h (congrArg some he.symm)
    have hafter : Bytes.after? hyphens (b :: rest) = none := by
      rw [hyphens, Bytes.after?, if_neg hb]
    have hshort : isShortHelp (b :: rest) = false := by
      cases rest with
      | nil => rfl
      | cons c rest => simp [isShortHelp, Ne.symm hb]
    rw [hafter, hshort]
    rfl

/-! ## What has been read -/

namespace Progress

/-- The value that a setting has been given. -/
def value (progress : Progress) : Setting → Option Bytes
  | .base => progress.base
  | .host => progress.host
  | .entryPoint => progress.entryPoint.map Utf8.encode

def Holds (progress : Progress) : Choice → Prop
  | .debug => progress.debug = true
  | .setting s value => progress.value s = some value

/-- Nothing is pending, and these are the choices that have been accepted. -/
structure Settled (progress : Progress) (choices : List Choice) : Prop where
  pending : progress.pending = none
  holds : ∀ choice, progress.Holds choice ↔ choice ∈ choices

/-- What has been read comes to these choices once a pending value is accepted. -/
def Has (progress : Progress) (choices : List Choice) : Prop :=
  ∃ settled, progress.settle = .ok settled ∧ settled.Settled choices

variable {progress settled : Progress} {done : List Choice} {s : Setting} {value : Bytes}

theorem Settled.has (h : settled.Settled done) : settled.Has done :=
  ⟨settled, by rw [settle, h.pending], h⟩

theorem has_start : start.Has [] := by
  refine Settled.has ⟨rfl, ?_⟩
  rintro (_ | ⟨_ | _ | _, value⟩) <;> simp [Holds, Progress.value, start]

/-- One more value is one more choice. -/
theorem holds_iff_of_value {accepted : Progress} (hdebug : accepted.debug = settled.debug)
    (hvalue : ∀ r, accepted.value r = if r = s then some value else settled.value r)
    (hfree : settled.value s = none) (choice : Choice) :
    accepted.Holds choice ↔ settled.Holds choice ∨ choice = .setting s value := by
  cases choice with
  | debug => simp [Holds, hdebug]
  | setting r other =>
    show accepted.value r = some other ↔ settled.value r = some other ∨ _
    rw [hvalue]
    by_cases hr : r = s
    · subst hr
      simp [hfree, eq_comm]
    · simp [hr]

/-- An allowed value for a setting that has none is accepted, as one more choice. -/
theorem accept_eq_ok (hfree : settled.value s = none)
    (hallowed : (Choice.setting s value).IsAllowed) :
    ∃ accepted, settled.accept s value = .ok accepted ∧ accepted.pending = settled.pending ∧
      ∀ choice, accepted.Holds choice ↔ settled.Holds choice ∨ choice = .setting s value := by
  cases s with
  | base =>
    have hnone : settled.base = none := hfree
    have hvalue : value ≠ [] := hallowed
    refine ⟨{ settled with
      accepted := settled.accepted ++ [.setting .base], base := some value }, ?_, rfl,
      holds_iff_of_value rfl (fun r => by cases r <;> rfl) hfree⟩
    simp [accept, hnone, hvalue]
  | host =>
    have hnone : settled.host = none := hfree
    have hvalue : value ≠ [] := hallowed
    refine ⟨{ settled with
      accepted := settled.accepted ++ [.setting .host], host := some value }, ?_, rfl,
      holds_iff_of_value rfl (fun r => by cases r <;> rfl) hfree⟩
    simp [accept, hnone, hvalue]
  | entryPoint =>
    have hnone : settled.entryPoint = none := Option.map_eq_none_iff.1 hfree
    obtain ⟨text, rfl⟩ := hallowed
    refine ⟨{ settled with
      accepted := settled.accepted ++ [.setting .entryPoint], entryPoint := some text }, ?_, rfl,
      holds_iff_of_value rfl (fun r => by cases r <;> rfl) hfree⟩
    simp [accept, hnone]

/-- A choice is accepted if its setting is not among those chosen before. -/
theorem Settled.accept (h : settled.Settled done) (hfree : ∀ other, .setting s other ∉ done)
    (hallowed : (Choice.setting s value).IsAllowed) :
    ∃ accepted, settled.accept s value = .ok accepted ∧
      accepted.Settled (done ++ [.setting s value]) := by
  have hnone : settled.value s = none :=
    Option.eq_none_iff_forall_ne_some.2 fun other hother => hfree other ((h.holds _).1 hother)
  obtain ⟨accepted, haccept, hpending, hholds⟩ := accept_eq_ok hnone hallowed
  refine ⟨accepted, haccept, hpending.trans h.pending, fun choice => ?_⟩
  rw [hholds, h.holds, List.mem_append, List.mem_singleton]

/-- The switch is on after it, if it was not before. -/
theorem Settled.switch (h : settled.Settled done) (hfree : .debug ∉ done) :
    settled.debug = false ∧ ∀ accepted : List Flag,
      Settled { settled with debug := true, accepted } (done ++ [Choice.debug]) := by
  refine ⟨?_, fun accepted => ⟨h.pending, fun choice => ?_⟩⟩
  · rw [← Bool.not_eq_true]
    exact fun hon => hfree ((h.holds .debug).1 hon)
  · rw [List.mem_append, List.mem_singleton, ← h.holds]
    cases choice with
    | debug => simp [Holds]
    | setting r other =>
      have hsame : ({ settled with debug := true, accepted }).value r = settled.value r := by
        cases r <;> rfl
      simp [Holds, hsame]

/-! ## Reading one option -/

/-- **The tokens of one choice are read as that choice**, if its option has not been used. -/
theorem read_spelled {choice : Choice} {word : List Bytes} (hword : Spelled choice word)
    (h : progress.Has done) (hfree : ∀ other ∈ done, other.flag ≠ choice.flag)
    (hallowed : choice.IsAllowed) :
    ∃ next : Progress, next.Has (done ++ [choice]) ∧
      ∀ rest, progress.read (word ++ rest) = next.read rest := by
  obtain ⟨settled, hsettle, hsettled⟩ := h
  cases hword with
  | debug =>
    obtain ⟨hdebug, hnext⟩ := hsettled.switch fun hmem => hfree _ hmem rfl
    refine ⟨_, (hnext (settled.accepted ++ [.switch .debug])).has, fun rest => ?_⟩
    rw [List.singleton_append, read, classify_debug]
    simp only [hsettle, hdebug]
    rfl
  | joined s value =>
    obtain ⟨accepted, haccept, hnext⟩ :=
      hsettled.accept (fun other hmem => hfree _ hmem rfl) hallowed
    refine ⟨accepted, hnext.has, fun rest => ?_⟩
    rw [List.singleton_append, read, classify_joined]
    simp only [hsettle, haccept]
  | apart s value hvalue =>
    obtain ⟨accepted, haccept, hnext⟩ :=
      hsettled.accept (fun other hmem => hfree _ hmem rfl) hallowed
    refine ⟨{ settled with pending := some (s, value) }, ⟨accepted, ?_, hnext⟩, fun rest => ?_⟩
    · -- a pending value is accepted as one behind an equals sign is at once
      have hback : { settled with pending := none } = settled := by
        rw [← hsettled.pending]
      rw [settle, ← haccept]
      exact congrArg (Progress.accept · s value) hback
    · rw [List.cons_append, List.singleton_append, read, classify_setting]
      simp only [hsettle, valueError?, classify_word hvalue]

/-! ## Reading a list of options -/

/-- An option that is used once is none of those used before. -/
theorem flag_ne_of_nodup {choice : Choice} {choices : List Choice}
    (h : ((done ++ choice :: choices).map Choice.flag).Nodup) :
    ∀ other ∈ done, other.flag ≠ choice.flag := by
  intro other hother
  rw [List.map_append, List.map_cons] at h
  exact (List.nodup_append.1 h).2.2 _ (List.mem_map_of_mem hother) _ List.mem_cons_self

/-- **The tokens of choices are read as these choices**, whatever follows them. -/
theorem read_written {choices : List Choice} {tokens : List Bytes} (h : Written choices tokens)
    (hprogress : progress.Has done) (hdistinct : ((done ++ choices).map Choice.flag).Nodup)
    (hallowed : ∀ choice ∈ choices, choice.IsAllowed) :
    ∃ next : Progress, next.Has (done ++ choices) ∧
      ∀ rest, progress.read (tokens ++ rest) = next.read rest := by
  -- by induction on the list as it is written; what was read before grows by each step
  induction h generalizing progress done with
  | none => exact ⟨progress, by rwa [List.append_nil], fun rest => rfl⟩
  | @more choice word choices tokens hword h ih =>
    obtain ⟨hchoice, hchoices⟩ := List.forall_mem_cons.1 hallowed
    obtain ⟨middle, hmiddle, hstep⟩ :=
      read_spelled hword hprogress (flag_ne_of_nodup hdistinct) hchoice
    rw [List.append_cons] at hdistinct ⊢
    obtain ⟨next, hnext, hrun⟩ := ih hmiddle hdistinct hchoices
    refine ⟨next, hnext, fun rest => ?_⟩
    rw [List.append_assoc, hstep, hrun]

end Progress

/-! ## What the choices come to -/

namespace Arguments

variable {arguments : Arguments} {choices : List Choice}

theorem debug_mem_required : .debug ∈ arguments.required ↔ arguments.debug = true := by
  simp [required]

theorem base_mem_required {value : Bytes} :
    .setting .base value ∈ arguments.required ↔ arguments.base = some value := by
  simp [required]

theorem host_mem_required {value : Bytes} :
    .setting .host value ∈ arguments.required ↔ arguments.host = some value := by
  simp [required]

theorem entry_not_mem_required {value : Bytes} :
    .setting .entryPoint value ∉ arguments.required := by
  simp [required]

/-- Arguments choose no option twice. -/
theorem nodup_flags : ((arguments.entryChoice :: arguments.required).map Choice.flag).Nodup := by
  obtain ⟨debug, base, host, entryPoint, rest⟩ := arguments
  cases debug <;> cases base <;> cases host <;> simp [required, entryChoice, Choice.flag]

theorem ChosenBy.nodup_flags (h : arguments.ChosenBy choices) :
    (choices.map Choice.flag).Nodup := by
  have hall : ((arguments.entryChoice :: arguments.required).map Choice.flag).Nodup :=
    Arguments.nodup_flags
  cases h with
  | named h => exact (h.map Choice.flag).nodup_iff.2 hall
  | usual hname h => exact (h.map Choice.flag).nodup_iff.2 (List.nodup_cons.1 hall).2

theorem ChosenBy.isAllowed (h : arguments.ChosenBy choices) (hbase : arguments.base ≠ some [])
    (hhost : arguments.host ≠ some []) : ∀ choice ∈ choices, choice.IsAllowed := by
  have hrequired : ∀ choice ∈ arguments.required, choice.IsAllowed := by
    rintro (_ | ⟨_ | _ | _, value⟩) hmem
    · trivial
    · rintro rfl
      exact hbase (base_mem_required.1 hmem)
    · rintro rfl
      exact hhost (host_mem_required.1 hmem)
    · exact absurd hmem entry_not_mem_required
  intro choice hmem
  cases h with
  | named h =>
    rcases List.mem_cons.1 (h.mem_iff.1 hmem) with rfl | hmem
    · exact ⟨_, rfl⟩
    · exact hrequired choice hmem
  | usual hname h => exact hrequired choice (h.mem_iff.1 hmem)

/-- But for the entry point, what is chosen does not depend on how. -/
theorem ChosenBy.mem_iff (h : arguments.ChosenBy choices) {choice : Choice}
    (hflag : choice.flag ≠ .setting .entryPoint) :
    choice ∈ choices ↔ choice ∈ arguments.required := by
  cases h with
  | named h =>
    have hne : choice ≠ arguments.entryChoice := fun he => hflag (congrArg Choice.flag he)
    rw [h.mem_iff, List.mem_cons, or_iff_right hne]
  | usual hname h => exact h.mem_iff

end Arguments

namespace Progress

variable {progress settled : Progress} {arguments : Arguments} {choices : List Choice}

/-- The entry point that counts is the one that the choices come to. -/
theorem Settled.entryPoint (h : settled.Settled choices) (hchosen : arguments.ChosenBy choices) :
    settled.entryPoint.getD applicationMain = arguments.entryPoint := by
  have hvalue : ∀ value, settled.entryPoint.map Utf8.encode = some value ↔
      .setting .entryPoint value ∈ choices := fun value => h.holds (.setting .entryPoint value)
  cases hchosen with
  | named hperm =>
    have hmem : arguments.entryChoice ∈ choices := hperm.mem_iff.2 List.mem_cons_self
    obtain ⟨text, htext, hencoded⟩ := Option.map_eq_some_iff.1 ((hvalue _).2 hmem)
    have hsame : text = arguments.entryPoint := by
      have hdecoded := congrArg Utf8.decode? hencoded
      rw [Utf8.decode?_encode, Utf8.decode?_encode] at hdecoded
      exact Option.some.inj hdecoded
    rw [htext, Option.getD_some, hsame]
  | usual hname hperm =>
    have hnone : settled.entryPoint = none := by
      refine Option.eq_none_iff_forall_ne_some.2 fun text htext => ?_
      have hmem : .setting .entryPoint (Utf8.encode text) ∈ choices :=
        (hvalue _).1 (congrArg (Option.map Utf8.encode) htext)
      exact Arguments.entry_not_mem_required (hperm.mem_iff.1 hmem)
    rw [hnone, Option.getD_none, hname]

/-- **Choices come to the arguments that they were made for**, with what follows the options as the
application's arguments. -/
theorem finish_eq_ok (h : progress.Has choices) (hchosen : arguments.ChosenBy choices) :
    progress.finish (arguments.arguments.map Utf8.encode) = .ok arguments := by
  obtain ⟨settled, hsettle, hsettled⟩ := h
  have hdebug : settled.debug = arguments.debug := by
    rw [Bool.eq_iff_iff, ← Arguments.debug_mem_required, ← hchosen.mem_iff (by decide)]
    exact hsettled.holds .debug
  have hbase : settled.base = arguments.base := by
    ext value
    rw [← Arguments.base_mem_required, ← hchosen.mem_iff (by simp [Choice.flag])]
    exact hsettled.holds (.setting .base value)
  have hhost : settled.host = arguments.host := by
    ext value
    rw [← Arguments.host_mem_required, ← hchosen.mem_iff (by simp [Choice.flag])]
    exact hsettled.holds (.setting .host value)
  have hentry : settled.entryPoint.getD applicationMain = arguments.entryPoint :=
    hsettled.entryPoint hchosen
  simp only [finish, hsettle, Utf8.mapM_decode?_encode, hdebug, hbase, hhost, hentry]

end Progress

/-! ## The main statement -/

/-- **Written command lines are read back.** However the options of arguments are written, what
follows them reaches the application as it stands: all of it behind a separator, and without one
too if the first of it does not begin with a hyphen. -/
theorem parse_written (arguments : Arguments) (choices : List Choice) (tokens : List Bytes)
    (hbase : arguments.base ≠ some []) (hhost : arguments.host ≠ some [])
    (hchosen : arguments.ChosenBy choices) (hwritten : Written choices tokens) :
    parse (tokens ++ hyphens :: arguments.arguments.map Utf8.encode) = .ok arguments ∧
      ∀ first rest, arguments.arguments = first :: rest → first.toList.head? ≠ some '-' →
        parse (tokens ++ arguments.arguments.map Utf8.encode) = .ok arguments := by
  obtain ⟨progress, hprogress, hread⟩ := Progress.read_written hwritten Progress.has_start
    hchosen.nodup_flags (hchosen.isAllowed hbase hhost)
  rw [List.nil_append] at hprogress
  have hfinish : progress.finish (arguments.arguments.map Utf8.encode) = .ok arguments :=
    Progress.finish_eq_ok hprogress hchosen
  refine ⟨?_, ?_⟩
  · rw [parse, hread, Progress.read, classify_separator]
    exact hfinish
  · intro first rest harguments hfirst
    have hword : classify (Utf8.encode first) = .word := by
      refine classify_word fun hhead => hfirst ?_
      exact (Utf8.head?_encode_eq_ascii (by decide)).1 hhead
    rw [harguments, List.map_cons] at hfinish ⊢
    rw [parse, hread, Progress.read, hword]
    exact hfinish

/-- Arguments that look like options, behind options that are written in both ways and in another
order than that of their declaration. -/
theorem parse_written_lookalike :
    let arguments : Arguments :=
      ⟨true, some (Utf8.encode "apps/hello"), some (Utf8.encode "--host"), applicationMain,
        ["run", "--host", "--help", "--", "", "-h"]⟩
    let tokens : List Bytes :=
      ["--host=--host", "--bootstrapper-debug", "--appbase", "apps/hello"].map Utf8.encode
    arguments.base ≠ some [] ∧ arguments.host ≠ some [] ∧
      parse (tokens ++ hyphens :: arguments.arguments.map Utf8.encode) = .ok arguments ∧
      parse (tokens ++ arguments.arguments.map Utf8.encode) = .ok arguments := by
  intro arguments tokens
  have hbase : arguments.base ≠ some [] := by decide +kernel
  have hhost : arguments.host ≠ some [] := by decide +kernel
  let choices : List Choice :=
    [.setting .host (Utf8.encode "--host"), .debug, .setting .base (Utf8.encode "apps/hello")]
  have hchosen : arguments.ChosenBy choices := .usual rfl (by decide +kernel)
  have hwritten : Written choices tokens := by
    have htokens : tokens =
        [(Flag.setting .host).token ++ equals :: Utf8.encode "--host"] ++
          ([(Flag.switch .debug).token] ++
            ([(Flag.setting .base).token, Utf8.encode "apps/hello"] ++ [])) := by
      decide +kernel
    rw [htokens]
    exact .more (.joined .host _) (.more .debug (.more (.apart .base _ (by decide +kernel)) .none))
  obtain ⟨hseparated, hbare⟩ := parse_written arguments choices tokens hbase hhost hchosen hwritten
  exact ⟨hbase, hhost, hseparated, hbare "run" _ rfl (by decide +kernel)⟩

end Bootstrapper.CommandLine
