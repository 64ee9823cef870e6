import Bootstrapper.Proofs.Report
import Bootstrapper.Proofs.Text.Numeral

/-!
# How the demo host follows its arguments

The demo host reads its arguments from the left. It passes `--exit` with a number, and words that
say nothing to it (`Item`), up to an argument that decides, or up to the end (`Decision`). This
module says which arguments are which, without reading them:

* **`Reading`**: arguments parted into what is passed, what decides, and what is left unread.
* **`exists_reading`**, **`Reading.unique`** and **`Reading.longest`**: there is exactly one
  reading, and it passes as much as can be passed.
* **`follow_of_reading`**: what comes of it. Each item moves the exit code (`follow_item`), the last
  `--exit` that is passed leaves its number, and the decision ends it.
* **`follows_arguments`**: the main statement, for a call of the host.
-/

namespace Bootstrapper.DemoHost

/-! ## What is passed -/

/-- What is passed: `--exit` with a number, or a word. -/
inductive Item
  | exit (value : String) (code : Int32)
  | word (text : String)
deriving DecidableEq, Repr

namespace Item

def arguments : Item → List String
  | .exit value _ => ["--exit", value]
  | .word text => [text]

def code? : Item → Option Int32
  | .exit _ code => some code
  | .word _ => none

/-- The value of `--exit` is a number of 32 bits in decimal, and a word is none of the words that
the host knows. -/
inductive IsPassed : Item → Prop
  | exit {value : String} {code : Int32} (h : Numeral.Signed value.toList code.toInt) :
    IsPassed (.exit value code)
  | word {text : String} (h : text ≠ "--exit" ∧ text ≠ "--fail" ∧ text ≠ "--panic") :
    IsPassed (.word text)

end Item

/-- The exit code that items leave: that of the last `--exit`, if there is one. -/
def codeAfter (code : Int32) (items : List Item) : Int32 :=
  (items.filterMap Item.code?).getLast?.getD code

/-! ## What decides -/

/-- What ends a reading: no further argument, or one of the words that the host knows, with what
stands in the place of its value. -/
inductive Decision
  | nothing
  | exit (value? : Option String)
  | fail (value? : Option String)
  | panic
deriving DecidableEq, Repr

namespace Decision

def arguments : Decision → List String
  | .nothing => []
  | .exit value? => "--exit" :: value?.toList
  | .fail value? => "--fail" :: value?.toList
  | .panic => ["--panic"]

/-- Whether nothing can follow: no argument is left, or none for the value. -/
def isLast : Decision → Bool
  | .nothing | .exit none | .fail none => true
  | _ => false

/-- `--exit` decides only if its value is no number of 32 bits in decimal. -/
def IsReached : Decision → Prop
  | .exit (some value) => ∀ code : Int32, ¬ Numeral.Signed value.toList code.toInt
  | _ => True

def status? (value? : Option String) : Option Int32 :=
  value?.bind fun value => Numeral.status? value.toList

def ending : Decision → Ending
  | .nothing => .returned 0
  | .exit _ => .returned invalidArgument
  | .fail value? => .returned ((status? value?).getD invalidArgument)
  | .panic => .faulted faultText

/-- The complaint is of a value that is missing or cannot be read. -/
def complaint? : Decision → Option String
  | .exit _ => some "Error: --exit requires a number"
  | .fail value? => if status? value? = none then some "Error: --fail requires a status" else none
  | _ => none

end Decision

/-- Arguments parted into what is passed, what decides, and what is left unread. -/
structure Reading (arguments : List String) (items : List Item) (decision : Decision)
    (unread : List String) : Prop where
  isPassed : ∀ item ∈ items, item.IsPassed
  isReached : decision.IsReached
  isLast : decision.isLast = true → unread = []
  eq : arguments = items.flatMap Item.arguments ++ (decision.arguments ++ unread)

section

variable {code : Int32} {item other : Item} {items others : List Item} {decision choice : Decision}
  {arguments unread rest left right : List String}

/-! ## What comes of a reading -/

theorem codeAfter_cons (code : Int32) (item : Item) (items : List Item) :
    codeAfter code (item :: items) = codeAfter (item.code?.getD code) items := by
  cases item with
  | word text => rfl
  | exit value given =>
    show ((given :: items.filterMap Item.code?).getLast?).getD code = _
    rw [List.getLast?_cons, Option.getD_some]
    rfl

/-- **An item that is passed** moves the exit code and nothing else. -/
theorem follow_item (h : item.IsPassed) (code : Int32) (rest : List String) :
    follow code (item.arguments ++ rest) = follow (item.code?.getD code) rest := by
  cases h with
  | exit h =>
    have hvalue := Numeral.int32?_eq_some_iff.2 h
    simp [Item.arguments, Item.code?, follow, hvalue]
  | @word text h =>
    show follow code (text :: rest) = follow code rest
    rw [follow.eq_def]
    simp [h]

theorem follow_items (h : ∀ item ∈ items, item.IsPassed) (code : Int32) (rest : List String) :
    follow code (items.flatMap Item.arguments ++ rest) = follow (codeAfter code items) rest := by
  induction items generalizing code with
  | nil => rfl
  | cons item items ih =>
    obtain ⟨hitem, hitems⟩ := List.forall_mem_cons.1 h
    rw [List.flatMap_cons, List.append_assoc, follow_item hitem, ih hitems, codeAfter_cons]

/-- **A decision ends the reading.** What is left unread does not matter. -/
theorem follow_decision (hreached : decision.IsReached)
    (hlast : decision.isLast = true → unread = []) (code : Int32) :
    follow code (decision.arguments ++ unread) = ⟨code, decision.complaint?, decision.ending⟩ := by
  cases decision with
  | nothing =>
    rw [hlast rfl]
    rfl
  | exit value? =>
    cases value? with
    | none =>
      rw [hlast rfl]
      rfl
    | some value =>
      have hvalue : Numeral.int32? value.toList = none := by
        rw [Option.eq_none_iff_forall_ne_some]
        exact fun given hgiven => hreached given (Numeral.int32?_eq_some_iff.1 hgiven)
      simp [Decision.arguments, Decision.complaint?, Decision.ending, follow, hvalue]
  | fail value? =>
    have hhead : (value?.toList ++ unread).head? = value? := by
      cases value? with
      | none => rw [hlast rfl]; rfl
      | some value => rfl
    have hstatus : ((value?.toList ++ unread).head?.bind fun value =>
        Numeral.status? value.toList) = Decision.status? value? := by
      rw [hhead]
      rfl
    show follow code ("--fail" :: (value?.toList ++ unread)) = _
    rw [follow.eq_def]
    simp only [String.reduceEq, if_false, if_true, hstatus, Decision.complaint?, Decision.ending]
    cases Decision.status? value? <;> rfl
  | panic =>
    show follow code ("--panic" :: unread) = _
    rw [follow.eq_def]
    rfl

/-- **What comes of a reading.** -/
theorem follow_of_reading (h : Reading arguments items decision unread) (code : Int32) :
    follow code arguments = ⟨codeAfter code items, decision.complaint?, decision.ending⟩ := by
  rw [h.eq, follow_items h.isPassed, follow_decision h.isReached h.isLast]

/-! ## There is one reading -/

/-- An item before a reading makes a reading. -/
theorem Reading.cons (hitem : item.IsPassed) (h : Reading arguments items decision unread) :
    Reading (item.arguments ++ arguments) (item :: items) decision unread where
  isPassed := List.forall_mem_cons.2 ⟨hitem, h.isPassed⟩
  isReached := h.isReached
  isLast := h.isLast
  eq := by rw [h.eq, List.flatMap_cons, List.append_assoc]

theorem reading_of_decision (decision : Decision) (unread : List String)
    (hreached : decision.IsReached) (hlast : decision.isLast = true → unread = []) :
    Reading (decision.arguments ++ unread) [] decision unread :=
  ⟨by simp, hreached, hlast, rfl⟩

theorem exists_reading : ∀ arguments : List String,
    ∃ items decision unread, Reading arguments items decision unread
  | [] => ⟨[], .nothing, [], reading_of_decision .nothing [] trivial fun _ => rfl⟩
  | argument :: arguments => by
    by_cases hexit : argument = "--exit"
    · subst hexit
      cases arguments with
      | nil => exact ⟨_, _, _, reading_of_decision (.exit none) [] trivial fun _ => rfl⟩
      | cons value arguments =>
        by_cases hvalue : ∃ code : Int32, Numeral.Signed value.toList code.toInt
        · obtain ⟨code, hcode⟩ := hvalue
          obtain ⟨items, decision, unread, h⟩ := exists_reading arguments
          exact ⟨_, _, _, h.cons (.exit hcode)⟩
        · have hreached : (Decision.exit (some value)).IsReached := fun code hcode =>
            hvalue ⟨code, hcode⟩
          exact ⟨_, _, _, reading_of_decision _ arguments hreached nofun⟩
    by_cases hfail : argument = "--fail"
    · subst hfail
      cases arguments with
      | nil => exact ⟨_, _, _, reading_of_decision (.fail none) [] trivial fun _ => rfl⟩
      | cons value arguments =>
        exact ⟨_, _, _, reading_of_decision (.fail (some value)) arguments trivial nofun⟩
    by_cases hpanic : argument = "--panic"
    · subst hpanic
      exact ⟨_, _, _, reading_of_decision .panic arguments trivial nofun⟩
    · obtain ⟨items, decision, unread, h⟩ := exists_reading arguments
      exact ⟨_, _, _, h.cons (.word ⟨hexit, hfail, hpanic⟩)⟩

/-- What is passed does not decide. -/
theorem item_ne_decision (hitem : item.IsPassed) (hreached : decision.IsReached)
    (hlast : decision.isLast = true → unread = []) :
    item.arguments ++ rest ≠ decision.arguments ++ unread := by
  intro h
  cases hitem with
  | @exit value code hvalue =>
    cases decision with
    | nothing =>
      rw [hlast rfl] at h
      cases h
    | exit value? =>
      cases value? with
      | none =>
        rw [hlast rfl] at h
        cases h
      | some other =>
        obtain rfl : value = other := (List.cons.inj (List.cons.inj h).2).1
        exact hreached code hvalue
    | fail value? => exact absurd (List.cons.inj h).1 (by decide)
    | panic => exact absurd (List.cons.inj h).1 (by decide)
  | word hword =>
    cases decision with
    | nothing =>
      rw [hlast rfl] at h
      cases h
    | exit value? => exact hword.1 (List.cons.inj h).1
    | fail value? => exact hword.2.1 (List.cons.inj h).1
    | panic => exact hword.2.2 (List.cons.inj h).1

/-- Arguments that begin with an item begin with no other. -/
theorem item_unique (hitem : item.IsPassed) (hother : other.IsPassed)
    (h : item.arguments ++ left = other.arguments ++ right) : item = other ∧ left = right := by
  cases hitem with
  | @exit value code hvalue =>
    cases hother with
    | @exit value' code' hvalue' =>
      obtain ⟨rfl, hrest⟩ := List.cons.inj (List.cons.inj h).2
      -- a value stands for one number
      have hcode := (Numeral.int32?_eq_some_iff.2 hvalue).symm.trans
        (Numeral.int32?_eq_some_iff.2 hvalue')
      obtain rfl := Option.some.inj hcode
      exact ⟨rfl, hrest⟩
    | word hword => exact absurd (List.cons.inj h).1.symm hword.1
  | word hword =>
    cases hother with
    | exit hvalue => exact absurd (List.cons.inj h).1 hword.1
    | word hword' =>
      obtain ⟨rfl, hrest⟩ := List.cons.inj h
      exact ⟨rfl, hrest⟩

theorem decision_unique (hlast : decision.isLast = true → left = [])
    (hlast' : choice.isLast = true → right = [])
    (h : decision.arguments ++ left = choice.arguments ++ right) :
    decision = choice ∧ left = right := by
  rcases decision with _ | (_ | value) | (_ | value) | _ <;>
    rcases choice with _ | (_ | value') | (_ | value') | _ <;>
      simp_all [Decision.arguments, Decision.isLast]

/-- **A reading passes as much as can be passed.** -/
theorem Reading.longest (h : Reading arguments items decision unread)
    (hothers : ∀ item ∈ others, item.IsPassed)
    (heq : arguments = others.flatMap Item.arguments ++ rest) : others <+: items := by
  induction others generalizing arguments items with
  | nil => exact List.nil_prefix
  | cons other others ih =>
    obtain ⟨hother, hrest⟩ := List.forall_mem_cons.1 hothers
    have hsame := h.eq.symm.trans heq
    rw [List.flatMap_cons, List.append_assoc] at hsame
    cases items with
    | nil => exact absurd hsame.symm (item_ne_decision hother h.isReached h.isLast)
    | cons item items =>
      obtain ⟨hitem, hitems⟩ := List.forall_mem_cons.1 h.isPassed
      rw [List.flatMap_cons, List.append_assoc] at hsame
      obtain ⟨rfl, hbehind⟩ := item_unique hitem hother hsame
      have hreading : Reading (items.flatMap Item.arguments ++ (decision.arguments ++ unread)) items
          decision unread := ⟨hitems, h.isReached, h.isLast, rfl⟩
      exact List.cons_prefix_cons.2 ⟨rfl, ih hreading hrest hbehind⟩

/-- **There is one reading.** -/
theorem Reading.unique (h : Reading arguments items decision unread)
    (h' : Reading arguments others choice rest) :
    items = others ∧ decision = choice ∧ unread = rest := by
  have hprefix : items <+: others := h'.longest h.isPassed h.eq
  obtain rfl : items = others :=
    hprefix.eq_of_length_le (h.longest h'.isPassed h'.eq).length_le
  have hsame := List.append_cancel_left (h.eq.symm.trans h'.eq)
  exact ⟨rfl, decision_unique h.isLast h'.isLast hsame⟩

end

/-! ## The main statement -/

/-- **The demo host follows its arguments.** They have one reading, which passes as much as can be
passed. The host prints its report on one line, complains on another one if the decision lacks its
value, leaves the number of the last `--exit` that was passed, and ends as was decided. So nothing
else about the arguments matters: two calls that come to the same decision with the same number end
alike, whatever else is passed before it and left unread behind it. -/
theorem follows_arguments (payload : Payload) (environment : Variables) :
    ∃ items decision unread,
      Reading payload.arguments items decision unread ∧
      (∀ others choice rest, Reading payload.arguments others choice rest →
        items = others ∧ decision = choice ∧ unread = rest) ∧
      (∀ others rest, (∀ item ∈ others, item.IsPassed) →
        payload.arguments = others.flatMap Item.arguments ++ rest → others <+: items) ∧
      (∃ line : String, '\n' ∉ line.toList ∧ "REPORT:".toList <+: line.toList ∧
        (callApplicationMain payload environment).outputs = .printed (line ++ "\n") ::
          (decision.complaint?.map fun complaint => .complained (complaint ++ "\n")).toList) ∧
      (callApplicationMain payload environment).exitCode = codeAfter payload.exitCode items ∧
      (callApplicationMain payload environment).ending = decision.ending ∧
      ∀ (other : Payload) (elsewhere : Variables) (others : List Item) (rest : List String),
        Reading other.arguments others decision rest →
        codeAfter other.exitCode others = codeAfter payload.exitCode items →
        (callApplicationMain other elsewhere).exitCode =
            (callApplicationMain payload environment).exitCode ∧
          (callApplicationMain other elsewhere).ending =
            (callApplicationMain payload environment).ending ∧
          (callApplicationMain other elsewhere).outputs.tail =
            (callApplicationMain payload environment).outputs.tail := by
  obtain ⟨items, decision, unread, h⟩ := exists_reading payload.arguments
  have hfollow := follow_of_reading h payload.exitCode
  refine ⟨items, decision, unread, h, fun _ _ _ h' => h.unique h', fun _ _ => h.longest,
    ⟨Suite.reportText payload environment, ?_, ?_, ?_⟩, ?_, ?_, ?_⟩
  · exact fun hmem => absurd (Suite.visible_reportText payload environment _ hmem) (by decide)
  · rw [Suite.toList_reportText]
    exact List.prefix_append _ _
  · rw [callApplicationMain, hfollow]
    rfl
  · rw [callApplicationMain, hfollow]
  · rw [callApplicationMain, hfollow]
  · intro other elsewhere others rest hother hcode
    have hfollow' := follow_of_reading hother other.exitCode
    rw [callApplicationMain, callApplicationMain, hfollow, hfollow', hcode]
    -- only the reports differ
    exact ⟨rfl, rfl, by rw [List.tail_cons, List.tail_cons]⟩

/-- A word that the host knows stands in the place of a number: `--exit` decides, and `--fail` is
not followed. The number before it has a sign and is zero, so it is not told by the exit code alone
that it was passed. -/
theorem follows_arguments_misplaced :
    let arguments := ["a", "--exit", "7", "--exit", "+0", "--exit", "--fail", "3"]
    let payload := { Payload.ofTexts "/" "/opt/" arguments with exitCode := 5 }
    Reading payload.arguments [.word "a", .exit "7" 7, .exit "+0" 0] (.exit (some "--fail")) ["3"] ∧
      (callApplicationMain payload .empty).exitCode = 0 ∧
      (callApplicationMain payload .empty).ending = .returned (-2147024809) ∧
      ∃ line, (callApplicationMain payload .empty).outputs =
        [.printed line, .complained "Error: --exit requires a number\n"] := by
  intro arguments payload
  have hpassed : ∀ item ∈ [Item.word "a", .exit "7" 7, .exit "+0" 0], item.IsPassed := by
    simp only [List.forall_mem_cons, List.not_mem_nil, false_imp_iff, implies_true, and_true]
    exact ⟨.word (by decide), .exit (Numeral.int32?_eq_some_iff.1 (by decide +kernel)),
      .exit (Numeral.int32?_eq_some_iff.1 (by decide +kernel))⟩
  have hreached : (Decision.exit (some "--fail")).IsReached := by
    intro code hcode
    have hnone : Numeral.int32? "--fail".toList = none := by decide +kernel
    rw [Numeral.int32?_eq_some_iff.2 hcode] at hnone
    cases hnone
  have hreading : Reading payload.arguments [.word "a", .exit "7" 7, .exit "+0" 0]
      (.exit (some "--fail")) ["3"] := ⟨hpassed, hreached, nofun, by decide +kernel⟩
  obtain ⟨items, decision, unread, -, hunique, -, ⟨line, -, -, houtputs⟩, hcode, hending, -⟩ :=
    follows_arguments payload .empty
  obtain ⟨rfl, rfl, rfl⟩ := hunique _ _ _ hreading
  have hzero : codeAfter payload.exitCode [.word "a", .exit "7" 7, .exit "+0" 0] = 0 := by decide
  exact ⟨hreading, hcode.trans hzero, hending, line ++ "\n", houtputs⟩

end Bootstrapper.DemoHost
