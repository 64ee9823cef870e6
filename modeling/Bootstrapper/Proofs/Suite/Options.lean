import Bootstrapper.Suite.Run
import Mathlib.Data.List.Induction
import Mathlib.Data.List.Nodup

/-!
# The suite's options

The tokens of the command line are pairs of an option and its value up to one that decides, or up to
the end. This module says so without reading them, and shows the loop that reads them to agree:

* **`Cursor.round`** and **`Ends`**: the loop goes by position, and a look behind the end is an
  outcome of its own. A round never comes to that (`round_course`), it moves on within the tokens,
  and what is still to be read stays the same. So the loop ends with what the list of tokens is
  read as (`ends_iff`).
* **`Reading`**: tokens parted into pairs, what stops the reading, and what is left unread. There is
  one reading (`exists_reading`, `Reading.unique`), and it says what is read (`read_of_reading`).
* **`get_give`** and **`Rearranged`**: of the pairs only the last of each option counts, and those of
  different options can change places (`give_rearranged`).
* **`options_read_in_order`**: the main statement.
-/

namespace Bootstrapper.Suite

theorem ofToken?_token (key : Key) : Key.ofToken? key.token = some key := by
  cases key <;> rfl

theorem ofToken?_eq_some_iff {token : String} {key : Key} :
    Key.ofToken? token = some key ↔ token = key.token := by
  constructor
  · intro h
    have hfound := List.find?_some h
    exact (of_decide_eq_true hfound).symm
  · rintro rfl
    exact ofToken?_token key

theorem ofToken?_eq_none_iff {token : String} :
    Key.ofToken? token = none ↔ ∀ key : Key, token ≠ key.token := by
  rw [Option.eq_none_iff_forall_ne_some]
  exact forall_congr' fun key => not_congr ofToken?_eq_some_iff

namespace Options

section

variable {options : Options} {key other : Key} {value token : String} {tokens : List String}

@[ext] theorem ext_get {options others : Options} (h : ∀ key, options.get key = others.get key) :
    options = others := by
  obtain ⟨program, host, work⟩ := options
  obtain ⟨program', host', work'⟩ := others
  obtain rfl : program = program' := h .program
  obtain rfl : host = host' := h .host
  obtain rfl : work = work' := h .workDirectory
  rfl

theorem get_set : (options.set key value).get other = if other = key then some value
    else options.get other := by
  cases key <;> cases other <;> rfl

/-- Different options do not get in each other's way. -/
theorem set_comm (h : key ≠ other) (value value' : String) :
    (options.set key value).set other value' = (options.set other value').set key value := by
  ext1 k
  rw [get_set, get_set, get_set, get_set]
  split_ifs with hother hkey
  · exact absurd (hkey.symm.trans hother) h
  · rfl
  · rfl
  · rfl

/-! ## What is read -/

/-- An option takes the next token, whatever it is. -/
theorem read_pair : options.read (key.token :: value :: tokens) =
    (options.set key value).read tokens := by
  rw [read, ofToken?_token]

theorem read_lacking : options.read [key.token] = .error (.missingValue key) := by
  rw [read, ofToken?_token]

theorem read_other (h : ∀ key : Key, token ≠ key.token) : options.read (token :: tokens) =
    .error (if token = "--help" ∨ token = "-h" then .help else .unknown token) := by
  rw [read, ofToken?_eq_none_iff.2 h]

end

/-! ## The loop -/

/-- What the loop knows when a round begins. -/
structure Cursor where
  position : Nat
  options : Options

/-- What a round comes to: a look behind the end, the end of the loop, or the next round. -/
inductive Round
  | outside
  | finished (result : Except Refusal Options)
  | next (cursor : Cursor)

/-- A round looks at the token at the position, and at the one behind it if it is to be a value. -/
def Cursor.round (arguments : List String) (cursor : Cursor) : Round :=
  if cursor.position < arguments.length then
    match arguments[cursor.position]? with
    | none => .outside
    | some token =>
      match Key.ofToken? token with
      | some key =>
        if arguments.length ≤ cursor.position + 1 then .finished (.error (.missingValue key))
        else
          match arguments[cursor.position + 1]? with
          | none => .outside
          | some value => .next ⟨cursor.position + 2, cursor.options.set key value⟩
      | none => .finished (.error (if token = "--help" ∨ token = "-h" then .help else .unknown token))
  else .finished (.ok cursor.options)

/-- What the rounds from a cursor come to, if there are finitely many and none looks behind the
end. -/
inductive Ends (arguments : List String) : Cursor → Except Refusal Options → Prop
  | finished {cursor : Cursor} {result : Except Refusal Options}
    (h : cursor.round arguments = .finished result) : Ends arguments cursor result
  | next {cursor later : Cursor} {result : Except Refusal Options}
    (h : cursor.round arguments = .next later) (hlater : Ends arguments later result) :
    Ends arguments cursor result

section

variable {arguments : List String} {cursor : Cursor} {result : Except Refusal Options}

/-- What a cursor has still to read. -/
def Cursor.rest (arguments : List String) (cursor : Cursor) : Except Refusal Options :=
  cursor.options.read (arguments.drop cursor.position)

/-- **One round** ends the loop with what was still to be read, or it moves on within the tokens and
leaves what is still to be read as it is. -/
theorem round_course (arguments : List String) (cursor : Cursor) :
    cursor.round arguments = .finished (cursor.rest arguments) ∨
      ∃ later, cursor.round arguments = .next later ∧ cursor.position < later.position ∧
        later.position ≤ arguments.length ∧ later.rest arguments = cursor.rest arguments := by
  obtain ⟨position, options⟩ := cursor
  rw [Cursor.round, Cursor.rest]
  by_cases hposition : position < arguments.length
  · have hdrop := List.drop_eq_getElem_cons hposition
    rw [if_pos hposition, List.getElem?_eq_getElem hposition, hdrop]
    generalize arguments[position] = token
    dsimp only
    cases hkey : Key.ofToken? token with
    | none => exact .inl (by rw [read_other (ofToken?_eq_none_iff.1 hkey)])
    | some key =>
      obtain rfl := ofToken?_eq_some_iff.1 hkey
      dsimp only
      by_cases hlast : arguments.length ≤ position + 1
      · exact .inl (by rw [if_pos hlast, List.drop_eq_nil_of_le hlast, read_lacking])
      · have hnext : position + 1 < arguments.length := Nat.lt_of_not_le hlast
        rw [if_neg hlast, List.getElem?_eq_getElem hnext, List.drop_eq_getElem_cons hnext, read_pair]
        refine .inr ⟨_, rfl, ?_, ?_, rfl⟩
        · show position < position + 2
          omega
        · show position + 2 ≤ arguments.length
          omega
  · have hend : arguments.length ≤ position := Nat.le_of_not_lt hposition
    exact .inl (by rw [if_neg hposition, List.drop_eq_nil_of_le hend, read])

/-- **The loop ends with what the tokens are read as.** Each round leaves fewer tokens behind the
position. -/
theorem ends_rest (arguments : List String) (cursor : Cursor) :
    Ends arguments cursor (cursor.rest arguments) := by
  obtain hfinished | ⟨later, hnext, hlt, hle, hrest⟩ := round_course arguments cursor
  · exact .finished hfinished
  · rw [← hrest]
    exact .next hnext (ends_rest arguments later)
  termination_by arguments.length - cursor.position

theorem ends_iff : Ends arguments cursor result ↔ result = cursor.rest arguments := by
  constructor
  · intro h
    induction h with
    | @finished cursor result h =>
      obtain hfinished | ⟨later, hnext, -⟩ := round_course arguments cursor
      · exact Round.finished.inj (h.symm.trans hfinished)
      · rw [h] at hnext
        cases hnext
    | @next cursor later result h _ ih =>
      obtain hfinished | ⟨later', hnext, -, -, hrest⟩ := round_course arguments cursor
      · rw [h] at hfinished
        cases hfinished
      · obtain rfl := Round.next.inj (h.symm.trans hnext)
        exact ih.trans hrest
  · rintro rfl
    exact ends_rest arguments cursor

end

/-! ## Readings -/

/-- An option with its value: two tokens, the second one any token. -/
def pairTokens (pair : Key × String) : List String :=
  [pair.1.token, pair.2]

/-- What stops a reading: the end of the tokens, an option without a token for its value, or a token
in the place of an option that is none. -/
inductive Stop
  | nothing
  | lacking (key : Key)
  | help (token : String)
  | unknown (token : String)
deriving DecidableEq, Repr

namespace Stop

def tokens : Stop → List String
  | .nothing => []
  | .lacking key => [key.token]
  | .help token | .unknown token => [token]

/-- Whether nothing can follow. -/
def isLast : Stop → Bool
  | .nothing | .lacking _ => true
  | _ => false

def IsReached : Stop → Prop
  | .help token => token = "--help" ∨ token = "-h"
  | .unknown token => token ∉ ["--dnx", "--host", "--work-dir", "--help", "-h"]
  | _ => True

instance : DecidablePred IsReached
  | .nothing | .lacking _ => inferInstanceAs (Decidable True)
  | .help token => inferInstanceAs (Decidable (token = "--help" ∨ token = "-h"))
  | .unknown token =>
    inferInstanceAs (Decidable (token ∉ ["--dnx", "--host", "--work-dir", "--help", "-h"]))

def refusal? : Stop → Option Refusal
  | .nothing => none
  | .lacking key => some (.missingValue key)
  | .help _ => some .help
  | .unknown token => some (.unknown token)

end Stop

/-- Tokens parted into pairs, what stops the reading, and what is left unread. -/
structure Reading (tokens : List String) (given : List (Key × String)) (stop : Stop)
    (unread : List String) : Prop where
  isReached : stop.IsReached
  isLast : stop.isLast = true → unread = []
  eq : tokens = given.flatMap pairTokens ++ (stop.tokens ++ unread)

/-- Gives options their values, one after the other. -/
def give (options : Options) (given : List (Key × String)) : Options :=
  given.foldl (fun options pair => options.set pair.1 pair.2) options

/-- The last value that pairs give an option. -/
def lastValue (key : Key) (given : List (Key × String)) : Option String :=
  (given.reverse.find? fun pair => pair.1 = key).map Prod.snd

section

variable {options : Options} {given others : List (Key × String)} {stop choice : Stop}
  {tokens unread rest : List String}

theorem lastValue_concat (key : Key) (given : List (Key × String)) (pair : Key × String) :
    lastValue key (given ++ [pair]) =
      if pair.1 = key then some pair.2 else lastValue key given := by
  rw [lastValue, List.reverse_concat, List.find?_cons]
  by_cases h : pair.1 = key <;> simp [h, lastValue]

/-- **Of the pairs the last of each option counts.** -/
theorem get_give (options : Options) (given : List (Key × String)) (key : Key) :
    (options.give given).get key = (lastValue key given).or (options.get key) := by
  induction given using List.reverseRecOn with
  | nil => rfl
  | append_singleton given pair ih =>
    rw [give, List.foldl_concat, ← give, get_set, ih, lastValue_concat]
    by_cases h : pair.1 = key
    · rw [if_pos h, if_pos h.symm]
      rfl
    · rw [if_neg h, if_neg (Ne.symm h)]

theorem read_pairs (options : Options) (given : List (Key × String)) (rest : List String) :
    options.read (given.flatMap pairTokens ++ rest) = (options.give given).read rest := by
  induction given generalizing options with
  | nil => rfl
  | cons pair given ih =>
    show options.read (pair.1.token :: pair.2 :: (given.flatMap pairTokens ++ rest)) = _
    rw [read_pair, ih]
    rfl

/-- A token that stops a reading in the place of an option is none. -/
theorem Stop.IsReached.ne_token {token : String} (hreached : stop.IsReached)
    (hstop : stop = .help token ∨ stop = .unknown token) (key : Key) : token ≠ key.token := by
  rintro rfl
  obtain rfl | rfl := hstop
  · cases key <;> exact absurd hreached (by decide)
  · cases key <;> exact absurd hreached (by decide)

/-- **What stops a reading decides it.** -/
theorem read_stop (hreached : stop.IsReached) (hlast : stop.isLast = true → unread = [])
    (options : Options) :
    options.read (stop.tokens ++ unread) = stop.refusal?.elim (.ok options) .error := by
  cases stop with
  | nothing =>
    rw [hlast rfl]
    rfl
  | lacking key =>
    rw [hlast rfl]
    exact read_lacking
  | help token =>
    have hhelp : token = "--help" ∨ token = "-h" := hreached
    refine (read_other (hreached.ne_token (.inl rfl))).trans ?_
    rw [if_pos hhelp]
    rfl
  | unknown token =>
    refine (read_other (hreached.ne_token (.inr rfl))).trans ?_
    rw [if_neg]
    · rfl
    · rintro (rfl | rfl) <;> exact absurd hreached (by decide)

theorem read_of_reading (h : Reading tokens given stop unread) (options : Options) :
    options.read tokens = stop.refusal?.elim (.ok (options.give given)) .error := by
  rw [h.eq, read_pairs, read_stop h.isReached h.isLast]

/-! ## There is one reading -/

theorem Reading.cons (pair : Key × String) (h : Reading tokens given stop unread) :
    Reading (pairTokens pair ++ tokens) (pair :: given) stop unread where
  isReached := h.isReached
  isLast := h.isLast
  eq := by rw [h.eq, List.flatMap_cons, List.append_assoc]

theorem reading_of_stop (stop : Stop) (unread : List String) (hreached : stop.IsReached)
    (hlast : stop.isLast = true → unread = []) :
    Reading (stop.tokens ++ unread) [] stop unread :=
  ⟨hreached, hlast, rfl⟩

theorem exists_reading : ∀ tokens : List String,
    ∃ given stop unread, Reading tokens given stop unread
  | [] => ⟨[], .nothing, [], reading_of_stop .nothing [] trivial fun _ => rfl⟩
  | token :: tokens => by
    by_cases hkey : ∃ key : Key, token = key.token
    · obtain ⟨key, rfl⟩ := hkey
      cases tokens with
      | nil => exact ⟨_, _, _, reading_of_stop (.lacking key) [] trivial fun _ => rfl⟩
      | cons value tokens =>
        obtain ⟨given, stop, unread, h⟩ := exists_reading tokens
        exact ⟨_, _, _, h.cons (key, value)⟩
    by_cases hhelp : token = "--help" ∨ token = "-h"
    · exact ⟨_, _, _, reading_of_stop (.help token) tokens hhelp nofun⟩
    · have hunknown : (Stop.unknown token).IsReached := by
        simp only [Stop.IsReached, List.mem_cons, List.not_mem_nil, or_false, not_or]
        exact ⟨fun h => hkey ⟨.program, h⟩, fun h => hkey ⟨.host, h⟩,
          fun h => hkey ⟨.workDirectory, h⟩, fun h => hhelp (.inl h), fun h => hhelp (.inr h)⟩
      exact ⟨_, _, _, reading_of_stop (.unknown token) tokens hunknown nofun⟩

/-- What stops a reading is no pair. -/
theorem stop_ne_pair (hreached : stop.IsReached) (hlast : stop.isLast = true → unread = [])
    (pair : Key × String) (rest : List String) :
    stop.tokens ++ unread ≠ pairTokens pair ++ rest := by
  intro h
  cases stop with
  | nothing =>
    rw [hlast rfl] at h
    cases h
  | lacking key =>
    rw [hlast rfl] at h
    cases (List.cons.inj h).2
  | help token => exact hreached.ne_token (.inl rfl) pair.1 (List.cons.inj h).1
  | unknown token => exact hreached.ne_token (.inr rfl) pair.1 (List.cons.inj h).1

/-- Two stops of the same tokens come to the same refusal, or both to none, and so are the same. -/
theorem stop_unique (h : Reading tokens [] stop unread) (h' : Reading tokens [] choice rest) :
    stop = choice ∧ unread = rest := by
  have heq : stop.tokens ++ unread = choice.tokens ++ rest := h.eq.symm.trans h'.eq
  have hrefusal := (read_of_reading h empty).symm.trans (read_of_reading h' empty)
  have hlast := h.isLast
  have hlast' := h'.isLast
  clear h h'
  rcases stop with _ | key | token | token <;> rcases choice with _ | key' | token' | token' <;>
    simp_all [Stop.tokens, Stop.isLast, Stop.refusal?]

theorem Reading.unique (h : Reading tokens given stop unread)
    (h' : Reading tokens others choice rest) : given = others ∧ stop = choice ∧ unread = rest := by
  induction given generalizing tokens others with
  | nil =>
    cases others with
    | nil => exact ⟨rfl, stop_unique h h'⟩
    | cons other others =>
      have heq := h.eq.symm.trans h'.eq
      rw [List.flatMap_cons, List.append_assoc] at heq
      exact absurd heq (stop_ne_pair h.isReached h.isLast other _)
  | cons pair given ih =>
    cases others with
    | nil =>
      have heq := h'.eq.symm.trans h.eq
      rw [List.flatMap_cons, List.append_assoc] at heq
      exact absurd heq (stop_ne_pair h'.isReached h'.isLast pair _)
    | cons other others =>
      obtain ⟨key, value⟩ := pair
      obtain ⟨key', value'⟩ := other
      have heq : key.token :: value :: (given.flatMap pairTokens ++ (stop.tokens ++ unread)) =
          key'.token :: value' :: (others.flatMap pairTokens ++ (choice.tokens ++ rest)) :=
        h.eq.symm.trans h'.eq
      obtain ⟨htoken, hvalue, hbehind⟩ : _ ∧ _ ∧ _ := by simpa only [List.cons.injEq] using heq
      obtain rfl : key = key' := Option.some.inj <|
        (ofToken?_token key).symm.trans (ofToken?_eq_some_iff.2 htoken)
      obtain ⟨rfl, hsame⟩ := ih ⟨h.isReached, h.isLast, rfl⟩ ⟨h'.isReached, h'.isLast, hbehind⟩
      exact ⟨by rw [hvalue], hsame⟩

end

/-! ## The order of the pairs -/

/-- Pairs in another order, got by letting neighbours of different options change places. -/
inductive Rearranged : List (Key × String) → List (Key × String) → Prop
  | nil : Rearranged [] []
  | cons (pair : Key × String) {given others : List (Key × String)}
    (h : Rearranged given others) : Rearranged (pair :: given) (pair :: others)
  | swap {pair other : Key × String} (h : pair.1 ≠ other.1) (given : List (Key × String)) :
    Rearranged (pair :: other :: given) (other :: pair :: given)
  | trans {given between others : List (Key × String)} (h : Rearranged given between)
    (h' : Rearranged between others) : Rearranged given others

/-- **Pairs of different options can change places.** -/
theorem give_rearranged {given others : List (Key × String)} (h : Rearranged given others)
    (options : Options) : options.give given = options.give others := by
  induction h generalizing options with
  | nil => rfl
  | cons pair _ ih => exact ih (options.set pair.1 pair.2)
  | swap hne given =>
    show (Options.give ((options.set _ _).set _ _) given) = _
    rw [set_comm hne]
    rfl
  | trans _ _ ih ih' => exact (ih options).trans (ih' options)

/-- Where no option is given twice, any order is another order of these pairs. -/
theorem rearranged_of_perm {given others : List (Key × String)} (h : given.Perm others)
    (hnodup : (given.map Prod.fst).Nodup) : Rearranged given others := by
  induction h with
  | nil => exact .nil
  | cons pair _ ih => exact .cons pair (ih (List.nodup_cons.1 hnodup).2)
  | swap pair other given =>
    refine .swap ?_ given
    intro hsame
    exact (List.nodup_cons.1 hnodup).1 (hsame ▸ List.mem_cons_self)
  | trans hperm _ ih ih' =>
    exact .trans (ih hnodup) (ih' ((hperm.map Prod.fst).nodup_iff.1 hnodup))

/-! ## The main statement -/

theorem run_of_refusal {tokens : List String} {refusal : Refusal}
    (h : empty.read tokens = .error refusal) (hhelp : refusal ≠ .help) (bench : Bench) :
    run bench tokens = ⟨.exited 1, header,
      "Error: " ++ refusal.message ++ "\nUse --help for usage information\n"⟩ := by
  rw [run, h]
  cases refusal with
  | help => exact absurd rfl hhelp
  | _ => rfl

theorem run_of_help {tokens : List String} (h : empty.read tokens = .error .help) (bench : Bench) :
    run bench tokens = ⟨.exited 0, header ++ Refusal.help.message, ""⟩ := by
  rw [run, h]
  rfl

/-- **The options are read in order.** Whatever the arguments, of which the first is the name of the
program, the loop ends, and no round looks behind the end. It comes to what the other arguments are
read as, and these have one reading. What stops that decides: the end of the arguments gives each
option its last value; help, a token that is no option and an option without a value end the suite
as such. Pairs of different options can change places before what stops the reading. -/
theorem options_read_in_order (arguments : List String) :
    (∀ cursor : Cursor, cursor.round arguments ≠ .outside) ∧
    (∀ result, Ends arguments ⟨1, empty⟩ result ↔ result = empty.read arguments.tail) ∧
    ∃ given stop unread, Reading arguments.tail given stop unread ∧
      (∀ others choice rest, Reading arguments.tail others choice rest →
        given = others ∧ stop = choice ∧ unread = rest) ∧
      (stop = .nothing → ∃ options, empty.read arguments.tail = .ok options ∧
        ∀ key, options.get key = lastValue key given) ∧
      (∀ bench token, stop = .help token →
        run bench arguments.tail = ⟨.exited 0, header ++ Refusal.help.message, ""⟩) ∧
      (∀ bench token, stop = .unknown token → run bench arguments.tail = ⟨.exited 1, header,
        "Error: " ++ ("Unknown argument: " ++ token) ++ "\nUse --help for usage information\n"⟩) ∧
      (∀ bench key, stop = .lacking key → run bench arguments.tail = ⟨.exited 1, header,
        "Error: " ++ (key.token ++ " requires a value") ++ "\nUse --help for usage information\n"⟩) ∧
      (∀ others, Rearranged given others →
        empty.read (others.flatMap pairTokens ++ (stop.tokens ++ unread)) =
          empty.read arguments.tail) ∧
      ∀ others, given.Perm others → (given.map Prod.fst).Nodup → Rearranged given others := by
  have hround : ∀ cursor : Cursor, cursor.round arguments ≠ .outside := by
    intro cursor houtside
    obtain hfinished | ⟨later, hnext, -⟩ := round_course arguments cursor
    · rw [houtside] at hfinished
      cases hfinished
    · rw [houtside] at hnext
      cases hnext
  have hends : ∀ result, Ends arguments ⟨1, empty⟩ result ↔
      result = empty.read arguments.tail := by
    intro result
    rw [ends_iff, Cursor.rest, List.drop_one]
  obtain ⟨given, stop, unread, h⟩ := exists_reading arguments.tail
  have hread := read_of_reading h empty
  refine ⟨hround, hends, given, stop, unread, h, fun _ _ _ h' => h.unique h', ?_, ?_, ?_, ?_, ?_,
    fun _ => rearranged_of_perm⟩
  · rintro rfl
    refine ⟨empty.give given, hread, fun key => ?_⟩
    rw [get_give]
    cases key <;> exact Option.or_none
  · rintro bench token rfl
    exact run_of_help hread bench
  · rintro bench token rfl
    have hunknown : empty.read arguments.tail = .error (.unknown token) := hread
    exact run_of_refusal hunknown nofun bench
  · rintro bench key rfl
    have hlacking : empty.read arguments.tail = .error (.missingValue key) := hread
    exact run_of_refusal hlacking nofun bench
  · intro others hothers
    rw [h.eq, read_pairs, read_pairs, give_rearranged hothers]

/-- Values that look like options are values, and a pair of another option can stand before them; a
token behind what stops the reading does not count. -/
theorem options_read_in_order_repeated :
    empty.read ["--host", "--dnx", "--dnx", "--help", "--host", "-h"] =
        .ok ⟨some "--help", some "-h", none⟩ ∧
      empty.read ["--dnx", "--help", "--host", "--dnx", "--host", "-h"] =
        .ok ⟨some "--help", some "-h", none⟩ ∧
      ∀ bench, run bench ["--dnx", "--host", "-h", "--dnx"] =
          ⟨.exited 0, header ++ Refusal.help.message, ""⟩ ∧
        run bench ["--work-dir", "-h", "-x", "--help"] = ⟨.exited 1, header,
          "Error: " ++ ("Unknown argument: " ++ "-x") ++ "\nUse --help for usage information\n"⟩ ∧
        run bench ["--host"] = ⟨.exited 1, header,
          "Error: " ++ (Key.host.token ++ " requires a value") ++
            "\nUse --help for usage information\n"⟩ := by
  have hnothing : Reading ["--host", "--dnx", "--dnx", "--help", "--host", "-h"]
      [(.host, "--dnx"), (.program, "--help"), (.host, "-h")] .nothing [] :=
    ⟨trivial, fun _ => rfl, rfl⟩
  have hhelp : Reading ["--dnx", "--host", "-h", "--dnx"] [(.program, "--host")] (.help "-h")
      ["--dnx"] := ⟨.inr rfl, nofun, rfl⟩
  have hunknown : Reading ["--work-dir", "-h", "-x", "--help"] [(.workDirectory, "-h")]
      (.unknown "-x") ["--help"] := ⟨by decide, nofun, rfl⟩
  have hlacking : Reading ["--host"] [] (.lacking .host) [] := ⟨trivial, fun _ => rfl, rfl⟩
  obtain ⟨-, -, given, stop, unread, -, hunique, hread, -, -, -, hrearranged, -⟩ :=
    options_read_in_order ["suite", "--host", "--dnx", "--dnx", "--help", "--host", "-h"]
  obtain ⟨rfl, rfl, rfl⟩ := hunique _ _ _ hnothing
  obtain ⟨options, hoptions, hvalues⟩ := hread rfl
  obtain rfl : options = ⟨some "--help", some "-h", none⟩ := by
    ext1 key
    rw [hvalues]
    cases key <;> rfl
  refine ⟨hoptions, (hrearranged _ (.swap (by decide) _)).trans hoptions, fun bench => ⟨?_, ?_, ?_⟩⟩
  · obtain ⟨-, -, _, _, _, -, hunique, -, h, -⟩ :=
      options_read_in_order ["suite", "--dnx", "--host", "-h", "--dnx"]
    obtain ⟨rfl, rfl, rfl⟩ := hunique _ _ _ hhelp
    exact h bench _ rfl
  · obtain ⟨-, -, _, _, _, -, hunique, -, -, h, -⟩ :=
      options_read_in_order ["suite", "--work-dir", "-h", "-x", "--help"]
    obtain ⟨rfl, rfl, rfl⟩ := hunique _ _ _ hunknown
    exact h bench _ rfl
  · obtain ⟨-, -, _, _, _, -, hunique, -, -, -, h, -⟩ := options_read_in_order ["suite", "--host"]
    obtain ⟨rfl, rfl, rfl⟩ := hunique _ _ _ hlacking
    exact h bench _ rfl

end Options

end Bootstrapper.Suite
