import Bootstrapper.Proofs.DemoHost
import Bootstrapper.Proofs.Text.Hexadecimal

/-!
# Statuses on a command line

A status is written as a signed decimal number, or by its bits as a hexadecimal number behind `0x`.
The two readings have bounds of their own: the bits fill 32 bits, the signed number is one of 32
bits (`status?_eq_some_iff`). Each status has written forms of both kinds (`StatusForm`), and what
is written so reaches the one who called the host (`statuses_delivered`).
-/

namespace Bootstrapper.Numeral

/-- A text that begins with `0x` is read as bits, any other as a signed number. -/
theorem status?_cases (cs : List Char) :
    (∃ digits, cs = "0x".toList ++ digits ∧
      status? cs = (word? 16 digits).map UInt32.toInt32) ∨
      (¬ "0x".toList <+: cs ∧ status? cs = int32? cs) := by
  by_cases h : "0x".toList <+: cs
  · obtain ⟨digits, rfl⟩ := h
    exact .inl ⟨digits, rfl, rfl⟩
  · refine .inr ⟨h, ?_⟩
    unfold status?
    split
    · exact absurd (List.prefix_append _ _) h
    · rfl

/-- **What is read as a status.** The bits of a status are a hexadecimal number below 2^32 behind
`0x`; a text that does not begin so is a signed number between the smallest and the largest one. -/
theorem status?_eq_some_iff {cs : List Char} {status : Int32} :
    status? cs = some status ↔
      (∃ digits bits, cs = "0x".toList ++ digits ∧ UnsignedHexadecimal digits bits ∧
        bits < 0x100000000 ∧ status.toBitVec = BitVec.ofNat 32 bits) ∨
      (¬ "0x".toList <+: cs ∧ ∃ value : Int, Signed cs value ∧ -0x80000000 ≤ value ∧
        value ≤ 0x7fffffff ∧ status.toInt = value) := by
  obtain ⟨digits, rfl, hread⟩ | ⟨hplain, hread⟩ := status?_cases cs
  · rw [hread, Option.map_eq_some_iff]
    constructor
    · rintro ⟨word, hword, rfl⟩
      rw [word?_eq_some_iff_natural?, natural?_unsigned_sixteen_iff] at hword
      refine .inl ⟨digits, word.toNat, rfl, hword, word.toNat_lt, ?_⟩
      show word.toBitVec = BitVec.ofNat 32 word.toBitVec.toNat
      rw [BitVec.ofNat_toNat, BitVec.setWidth_eq]
    · rintro (⟨digits', bits, hsame, hbits, hlt, hstatus⟩ | ⟨hnot, -⟩)
      · obtain rfl := List.append_cancel_left hsame
        refine ⟨UInt32.ofNat bits, ?_, ?_⟩
        · rw [word?_eq_some_iff_natural?, natural?_unsigned_sixteen_iff,
            UInt32.toNat_ofNat_of_lt' hlt]
          exact hbits
        · exact Int32.toBitVec_inj.1 hstatus.symm
      · exact absurd (List.prefix_append _ _) hnot
  · rw [hread, int32?_eq_some_iff]
    constructor
    · intro h
      have hle := status.le_toInt
      have hlt := status.toInt_lt
      exact .inr ⟨hplain, _, h, by omega, by omega, rfl⟩
    · rintro (⟨digits, bits, rfl, -⟩ | ⟨-, value, h, -, -, rfl⟩)
      · exact absurd (List.prefix_append _ _) hplain
      · exact h

/-- A number in decimal, with a minus sign if it is negative, stands for itself. -/
theorem signed_toString (i : Int) : Signed (toString i).toList i := by
  cases i with
  | ofNat n =>
    refine .inl ⟨n, ⟨Nat.toDigits 10 n, .inl ?_, decimal_toDigits n⟩, rfl⟩
    show (toString n).toList = Nat.toDigits 10 n
    simp
  | negSucc n =>
    refine .inr ⟨Nat.toDigits 10 (n + 1), n + 1, ?_, decimal_toDigits (n + 1), rfl⟩
    show ("-" ++ toString (n + 1)).toList = '-' :: Nat.toDigits 10 (n + 1)
    simp

theorem not_isPrefix_of_signed {cs : List Char} {i : Int} (h : Signed cs i) :
    ¬ "0x".toList <+: cs := by
  intro hplain
  have hmem : 'x' ∈ cs := hplain.subset (by decide)
  -- behind a sign there are digits only
  have hdigits : ∀ {digits n}, Decimal digits n → 'x' ∉ digits := fun hd => hd.not_mem rfl
  obtain ⟨n, ⟨digits, rfl | rfl, hdecimal⟩, -⟩ | ⟨digits, n, rfl, hdecimal, -⟩ := h
  · exact hdigits hdecimal hmem
  · exact hdigits hdecimal (List.mem_of_ne_of_mem (by decide) hmem)
  · exact hdigits hdecimal (List.mem_of_ne_of_mem (by decide) hmem)

/-- The written forms of a status: its value in decimal, or its bits in hexadecimal, in small or
capital letters and with any number of leading zeros. -/
inductive StatusForm (status : Int32) : String → Prop
  | decimal : StatusForm status (toString status.toInt)
  | bits (zeros : Nat) {digits : List Char}
    (h : digits = Nat.toDigits 16 status.toBitVec.toNat ∨
      digits = (Nat.toDigits 16 status.toBitVec.toNat).map Char.toUpper) :
    StatusForm status (String.ofList ("0x".toList ++ (List.replicate zeros '0' ++ digits)))

/-- **A status is read back from each of its written forms.** -/
theorem status?_statusForm {status : Int32} {text : String} (h : StatusForm status text) :
    status? text.toList = some status := by
  rw [status?_eq_some_iff]
  cases h with
  | decimal =>
    have hsigned := signed_toString status.toInt
    have hle := status.le_toInt
    have hlt := status.toInt_lt
    exact .inr ⟨not_isPrefix_of_signed hsigned, _, hsigned, by omega, by omega, rfl⟩
  | @bits zeros digits h =>
    have hwritten := hexadecimal_toDigits status.toBitVec.toNat
    have hdigits : Hexadecimal digits status.toBitVec.toNat := by
      obtain rfl | rfl := h
      · exact hwritten
      · exact hwritten.toUpper
    refine .inl ⟨_, _, String.toList_ofList, ⟨_, .inl rfl, hdigits.replicate zeros⟩,
      status.toBitVec.isLt, ?_⟩
    rw [BitVec.ofNat_toNat, BitVec.setWidth_eq]

end Bootstrapper.Numeral

namespace Bootstrapper.DemoHost

open Numeral (StatusForm)

section

variable {status code : Int32} {text : String} {items others : List Item}
  {rest unread : List String}

/-- **`--fail` returns the status that is written behind it**, and leaves the exit code as it is. -/
theorem follow_fail (h : StatusForm status text) (hitems : ∀ item ∈ items, item.IsPassed)
    (code : Int32) (unread : List String) :
    follow code (items.flatMap Item.arguments ++ "--fail" :: text :: unread) =
      ⟨codeAfter code items, none, .returned status⟩ := by
  have hreading : Reading (items.flatMap Item.arguments ++ "--fail" :: text :: unread) items
      (.fail (some text)) unread := ⟨hitems, trivial, nofun, rfl⟩
  have hstatus : Decision.status? (some text) = some status := Numeral.status?_statusForm h
  rw [follow_of_reading hreading, Decision.complaint?, Decision.ending, hstatus,
    if_neg (Option.some_ne_none status), Option.getD_some]

/-- **`--exit` leaves the number that is written behind it**, whatever else is passed that leaves
none. -/
theorem follow_exit {decision : Decision} (hitems : ∀ item ∈ items, item.IsPassed)
    (hrest : Reading rest others decision unread) (hwords : ∀ item ∈ others, item.code? = none)
    (code status : Int32) :
    follow code (items.flatMap Item.arguments ++ "--exit" :: toString status.toInt :: rest) =
      ⟨status, decision.complaint?, decision.ending⟩ := by
  have hpassed : (Item.exit (toString status.toInt) status).IsPassed :=
    .exit (Numeral.signed_toString status.toInt)
  have hcode : codeAfter status others = status := by
    rw [codeAfter, List.filterMap_eq_nil_iff.2 hwords]
    rfl
  rw [follow_items hitems]
  refine (follow_item hpassed (codeAfter code items) rest).trans ?_
  rw [follow_of_reading hrest]
  show (⟨codeAfter status others, _, _⟩ : Outcome) = _
  rw [hcode]

end

/-! ## The main statement -/

/-- **Statuses are delivered as they are written.** A text is read as a status exactly if it is `0x`
with the bits in hexadecimal behind it, or begins otherwise and is a signed decimal number of 32
bits. So each status is read back from its written forms, `--fail` returns it and complains of
nothing, and `--exit` leaves it as the exit code, if it is not passed again. -/
theorem statuses_delivered :
    (∀ (text : String) (status : Int32), Numeral.status? text.toList = some status ↔
      (∃ digits bits, text.toList = "0x".toList ++ digits ∧
        Numeral.UnsignedHexadecimal digits bits ∧ bits < 0x100000000 ∧
        status.toBitVec = BitVec.ofNat 32 bits) ∨
      (¬ "0x".toList <+: text.toList ∧ ∃ value : Int, Numeral.Signed text.toList value ∧
        -0x80000000 ≤ value ∧ value ≤ 0x7fffffff ∧ status.toInt = value)) ∧
    (∀ text status, StatusForm status text → Numeral.status? text.toList = some status) ∧
    (∀ (payload : Payload) (environment : Variables) (items : List Item) (text : String)
        (status : Int32) (unread : List String),
      StatusForm status text → (∀ item ∈ items, item.IsPassed) →
      payload.arguments = items.flatMap Item.arguments ++ "--fail" :: text :: unread →
      (callApplicationMain payload environment).ending = .returned status ∧
        (callApplicationMain payload environment).exitCode = codeAfter payload.exitCode items ∧
        (callApplicationMain payload environment).outputs =
          [.printed (reportLine payload environment)]) ∧
    ∀ (payload : Payload) (environment : Variables) (items others : List Item)
        (decision : Decision) (status : Int32) (rest unread : List String),
      (∀ item ∈ items, item.IsPassed) → Reading rest others decision unread →
      (∀ item ∈ others, item.code? = none) →
      payload.arguments =
        items.flatMap Item.arguments ++ "--exit" :: toString status.toInt :: rest →
      (callApplicationMain payload environment).exitCode = status ∧
        (callApplicationMain payload environment).ending = decision.ending := by
  refine ⟨fun text status => Numeral.status?_eq_some_iff,
    fun text status => Numeral.status?_statusForm, ?_, ?_⟩
  · intro payload environment items text status unread h hitems harguments
    have hfollow := follow_fail h hitems payload.exitCode unread
    rw [← harguments] at hfollow
    rw [callApplicationMain, hfollow]
    exact ⟨rfl, rfl, rfl⟩
  · intro payload environment items others decision status rest unread hitems hrest hwords
      harguments
    have hfollow := follow_exit hitems hrest hwords payload.exitCode status
    rw [← harguments] at hfollow
    rw [callApplicationMain, hfollow]
    exact ⟨rfl, rfl⟩

/-- The smallest status, in decimal and by its bits with leading zeros and capital letters, and the
largest one as an exit code that no later argument changes. -/
theorem statuses_delivered_extreme :
    let failing := fun text => Payload.ofTexts "/" "/opt/" ["--exit", "7", "--fail", text, "--panic"]
    let leaving := Payload.ofTexts "/" "/opt/" ["--exit", "2147483647", "--fail", "0x00DEADBEEF"]
    (callApplicationMain (failing "-2147483648") .empty).ending = .returned (-2147483648) ∧
      (callApplicationMain (failing "0x0080000000") .empty).ending = .returned (-2147483648) ∧
      (callApplicationMain (failing "0x0080000000") .empty).exitCode = 7 ∧
      (callApplicationMain leaving .empty).exitCode = 2147483647 ∧
      (callApplicationMain leaving .empty).ending = .returned (-559038737) := by
  intro failing leaving
  obtain ⟨-, hread, hfail, hexit⟩ := statuses_delivered
  have hpassed : ∀ item ∈ [Item.exit "7" 7], item.IsPassed :=
    List.forall_mem_singleton.2 (.exit (Numeral.int32?_eq_some_iff.1 (by decide +kernel)))
  have hdecimal : StatusForm (-2147483648) "-2147483648" := .decimal
  have hbits : StatusForm (-2147483648) "0x0080000000" := .bits 2 (.inl rfl)
  have hcapital : StatusForm (-559038737) "0x00DEADBEEF" := .bits 2 (.inr rfl)
  have hsigned := hfail (failing "-2147483648") .empty [.exit "7" 7] _ _ ["--panic"] hdecimal hpassed
    (by decide +kernel)
  have hunsigned := hfail (failing "0x0080000000") .empty [.exit "7" 7] _ _ ["--panic"] hbits hpassed
    (by decide +kernel)
  have hreading : Reading ["--fail", "0x00DEADBEEF"] [] (.fail (some "0x00DEADBEEF")) [] :=
    ⟨nofun, trivial, nofun, rfl⟩
  have hleft := hexit leaving .empty [] [] _ 2147483647 _ _ nofun hreading nofun (by decide +kernel)
  have hstatus : Decision.status? (some "0x00DEADBEEF") = some (-559038737) := hread _ _ hcapital
  have hending := hleft.2
  rw [Decision.ending, hstatus] at hending
  exact ⟨hsigned.1, hunsigned.1, hunsigned.2.1, hleft.1, hending⟩

end Bootstrapper.DemoHost
