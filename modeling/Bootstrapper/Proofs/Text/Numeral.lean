import Bootstrapper.Text.Numeral
import Mathlib.Data.List.Basic

/-!
# What a numeral is

The readers of numbers go through digits from the left and check the value at the end. This module
says without them which texts are numbers, and of which value:

* **`Decimal`**, **`Unsigned`** and **`Signed`**: ASCII digits, with a plus, with either sign.
* **`foldlM_extend_eq_some_iff`**: digits are read in any base, by induction on what is left.
* **`word?_eq_some_iff`**, **`int32?_eq_some_iff`**: a number of 32 bits is read exactly from the
  texts that stand for it. A text that stands for a number out of range stands for none of these.
-/

namespace Bootstrapper.Numeral

/-! ## Digits -/

/-- Decimal digits, at least one and any number of leading zeros, and the number that they stand
for. -/
structure Decimal (cs : List Char) (n : Nat) : Prop where
  ne_nil : cs ≠ []
  isDigit : ∀ c ∈ cs, c.isDigit = true
  value : n = Nat.ofDigitChars 10 cs 0

/-- Digits with an optional plus sign before them. -/
def Unsigned (cs : List Char) (n : Nat) : Prop :=
  ∃ digits, (cs = digits ∨ cs = '+' :: digits) ∧ Decimal digits n

/-- Digits with an optional sign before them. -/
def Signed (cs : List Char) (i : Int) : Prop :=
  (∃ n : Nat, Unsigned cs n ∧ i = n) ∨ ∃ digits n, cs = '-' :: digits ∧ Decimal digits n ∧ i = -n

section

variable {base value n : Nat} {c : Char} {cs digits : List Char}

theorem foldlM_extend_eq_some_iff :
    cs.foldlM (extend base) value = some n ↔
      (∀ c ∈ cs, (digit? base c).isSome) ∧
        n = cs.foldl (fun value c => value * base + (digit? base c).getD 0) value := by
  induction cs generalizing value with
  | nil => exact ⟨fun h => ⟨by simp, (Option.some.inj h).symm⟩, fun h => congrArg some h.2.symm⟩
  | cons c cs ih =>
    rw [List.foldlM_cons, List.forall_mem_cons, List.foldl_cons, extend]
    cases hdigit : digit? base c with
    | none => simp
    | some digit =>
      rw [Option.map_some, Option.bind_eq_bind, Option.bind_some, ih]
      simp

theorem digit?_of_isDigit (h : c.isDigit = true) :
    digit? 10 c = some (c.toNat - '0'.toNat) := by
  have hrange : 0x30 ≤ c.toNat ∧ c.toNat ≤ 0x39 := Char.isDigit_iff_toNat.1 h
  have hvalue : c.toNat - 0x30 < 10 := by omega
  simp only [digit?, hrange, and_self, if_true, hvalue]
  rfl

theorem digit?_of_not_isDigit (h : ¬ c.isDigit = true) : digit? 10 c = none := by
  have hrange : ¬ (0x30 ≤ c.toNat ∧ c.toNat ≤ 0x39) := fun hrange =>
    h (Char.isDigit_iff_toNat.2 hrange)
  -- what a letter stands for is no digit in base ten
  simp only [digit?, if_neg hrange]
  rw [if_neg]
  split_ifs <;> omega

theorem isSome_digit?_ten : (digit? 10 c).isSome = true ↔ c.isDigit = true := by
  by_cases h : c.isDigit = true
  · simp [digit?_of_isDigit h, h]
  · simp [digit?_of_not_isDigit h, h]

/-- **Digits are read as the number that they stand for**, and nothing else is read. -/
theorem natural?_eq_some_iff : natural? 10 cs = some n ↔ Decimal cs n := by
  cases cs with
  | nil => exact ⟨nofun, fun h => absurd rfl h.ne_nil⟩
  | cons c cs =>
    rw [natural?, foldlM_extend_eq_some_iff]
    simp only [isSome_digit?_ten]
    have hvalue : (∀ d ∈ c :: cs, d.isDigit = true) →
        (c :: cs).foldl (fun value d => value * 10 + (digit? 10 d).getD 0) 0 =
          Nat.ofDigitChars 10 (c :: cs) 0 := by
      intro hdigits
      rw [Nat.ofDigitChars_eq_foldl]
      refine List.foldl_ext _ _ 0 fun value d hd => ?_
      rw [digit?_of_isDigit (hdigits d hd), Option.getD_some, Nat.mul_comm]
    constructor
    · rintro ⟨hdigits, rfl⟩
      exact ⟨List.cons_ne_nil c cs, hdigits, hvalue hdigits⟩
    · intro h
      exact ⟨h.isDigit, h.value.trans (hvalue h.isDigit).symm⟩

theorem Decimal.not_mem (h : Decimal digits n) (hc : c.isDigit = false) : c ∉ digits :=
  fun hmem => by simp [h.isDigit c hmem] at hc

/-- What is behind an optional plus sign, for texts that begin with no sign. -/
theorem of_unsigned_iff {IsNumber : List Char → Nat → Prop}
    (hsign : ∀ {digits n}, IsNumber digits n → '+' ∉ digits) :
    IsNumber (unsigned cs) n ↔ ∃ digits, (cs = digits ∨ cs = '+' :: digits) ∧ IsNumber digits n := by
  constructor
  · intro h
    unfold unsigned at h
    split at h
    · exact ⟨_, .inr rfl, h⟩
    · exact ⟨_, .inl rfl, h⟩
  · rintro ⟨digits, rfl | rfl, h⟩
    · have hplus : unsigned cs = cs := by
        unfold unsigned
        split
        · exact absurd List.mem_cons_self (hsign h)
        · rfl
      rwa [hplus]
    · exact h

theorem natural?_unsigned_eq_some_iff : natural? 10 (unsigned cs) = some n ↔ Unsigned cs n := by
  rw [natural?_eq_some_iff]
  exact of_unsigned_iff fun h => h.not_mem rfl

/-! ## Numbers of 32 bits -/

theorem word?_eq_some_iff_natural? {word : UInt32} :
    word? base cs = some word ↔ natural? base (unsigned cs) = some word.toNat := by
  rw [word?, Option.bind_eq_some_iff]
  constructor
  · rintro ⟨n, hn, hword⟩
    split_ifs at hword with hlt
    obtain rfl := Option.some.inj hword
    rwa [UInt32.toNat_ofNat_of_lt' hlt]
  · intro h
    have hlt : word.toNat < 1 <<< 32 := word.toNat_lt
    exact ⟨_, h, by rw [if_pos hlt, UInt32.ofNat_toNat]⟩

/-- **An unsigned number of 32 bits** is read from the texts that stand for it. -/
theorem word?_eq_some_iff {word : UInt32} : word? 10 cs = some word ↔ Unsigned cs word.toNat := by
  rw [word?_eq_some_iff_natural?, natural?_unsigned_eq_some_iff]

theorem signed_of_cons_minus {i : Int} :
    Signed ('-' :: cs) i ↔ ∃ n, Decimal cs n ∧ i = -n := by
  constructor
  · rintro (⟨n, ⟨digits, hcs, h⟩, -⟩ | ⟨digits, n, hcs, h, rfl⟩)
    · obtain rfl | hcs := hcs
      · exact absurd List.mem_cons_self (h.not_mem rfl)
      · simp at hcs
    · obtain rfl := (List.cons.inj hcs).2
      exact ⟨n, h, rfl⟩
  · rintro ⟨n, h, rfl⟩
    exact .inr ⟨cs, n, rfl, h, rfl⟩

theorem signed_of_not_minus {i : Int} (h : ∀ digits, cs ≠ '-' :: digits) :
    Signed cs i ↔ ∃ n : Nat, Unsigned cs n ∧ i = n :=
  or_iff_left fun ⟨digits, _, hcs, _⟩ => h digits hcs

/-- **A signed number of 32 bits** is read from the texts that stand for it. -/
theorem int32?_eq_some_iff {code : Int32} : int32? cs = some code ↔ Signed cs code.toInt := by
  -- the range is checked last, and a number in range is that of its code
  have hrange : ∀ value : Option Int,
      (value.bind fun v =>
        if -0x80000000 ≤ v ∧ v < 0x80000000 then some (Int32.ofInt v) else none) = some code ↔
        value = some code.toInt := by
    intro value
    rw [Option.bind_eq_some_iff]
    constructor
    · rintro ⟨v, rfl, hcode⟩
      split_ifs at hcode with hv
      obtain rfl := Option.some.inj hcode
      rw [Int32.toInt_ofInt_of_le hv.1 (by omega)]
    · rintro rfl
      have hle := code.le_toInt
      have hlt := code.toInt_lt
      exact ⟨_, rfl, by rw [if_pos (by omega), Int32.ofInt_toInt]⟩
  have hsigned : ∀ (number : Option Nat) (sign : Int → Int) (i : Int),
      (number >>= fun n => pure (n : Int)).map sign = some i ↔
        ∃ n, number = some n ∧ i = sign n := by
    intro number sign i
    cases number <;> simp [eq_comm]
  unfold int32?
  simp only
  rw [hrange]
  split
  · rw [signed_of_cons_minus, hsigned]
    simp only [natural?_eq_some_iff]
  · next h =>
    rw [signed_of_not_minus fun digits hcs => h digits hcs, hsigned]
    simp only [natural?_unsigned_eq_some_iff]

/-- A number is written in decimal by digits that stand for it. -/
theorem decimal_toDigits (n : Nat) : Decimal (Nat.toDigits 10 n) n where
  ne_nil := Nat.toDigits_ne_nil
  isDigit := fun _ hc => Nat.isDigit_of_mem_toDigits (by decide) (by decide) hc
  value := Nat.ofDigitChars_ten_toDigits.symm

end

end Bootstrapper.Numeral
