import Bootstrapper.Proofs.Text.Numeral
import Mathlib.Data.List.Forall2
import Mathlib.Data.Nat.Digits.Defs

/-!
# Hexadecimal numbers

Which texts are hexadecimal numbers is said by the digits that numbers are written with, in either
case (`IsHexDigit`), and by the value of a list of digits (`Hexadecimal`).

* **`hexadecimal_iff`**: these are the texts that are read in base sixteen, with their values.
* **`hexadecimal_toDigits`**, **`Hexadecimal.replicate`** and **`Hexadecimal.toUpper`**: each number
  has such texts, with any number of leading zeros and in both cases.
-/

namespace Bootstrapper.Numeral

/-- A hexadecimal digit in either case, and the number that it stands for. -/
def IsHexDigit (c : Char) (digit : Nat) : Prop :=
  digit < 16 ∧ (c = digit.digitChar ∨ c = digit.digitChar.toUpper)

/-- Hexadecimal digits, at least one and any number of leading zeros, and the number that they stand
for. -/
def Hexadecimal (cs : List Char) (n : Nat) : Prop :=
  cs ≠ [] ∧ ∃ digits, List.Forall₂ IsHexDigit cs digits ∧ n = Nat.ofDigits 16 digits.reverse

/-- Hexadecimal digits with an optional plus sign before them. -/
def UnsignedHexadecimal (cs : List Char) (n : Nat) : Prop :=
  ∃ digits, (cs = digits ∨ cs = '+' :: digits) ∧ Hexadecimal digits n

section

variable {c : Char} {digit n : Nat} {cs : List Char}

theorem toNat_lt_of_digit? (h : digit? 16 c = some digit) : c.toNat < 0x67 := by
  by_contra hlt
  have hfigure : ¬ (0x30 ≤ c.toNat ∧ c.toNat ≤ 0x39) := by omega
  have hsmall : ¬ (0x61 ≤ c.toNat ∧ c.toNat ≤ 0x66) := by omega
  have hcapital : ¬ (0x41 ≤ c.toNat ∧ c.toNat ≤ 0x46) := by omega
  simp [digit?, hfigure, hsmall, hcapital] at h

theorem digit?_eq_some_iff : digit? 16 c = some digit ↔ IsHexDigit c digit := by
  constructor
  · intro h
    have hread : ∀ n < 0x67, ∀ digit ∈ digit? 16 (Char.ofNat n),
        digit < 16 ∧ (Char.ofNat n = digit.digitChar ∨ Char.ofNat n = digit.digitChar.toUpper) := by
      decide
    have hc := Char.ofNat_toNat c
    have hdigit := hread c.toNat (toNat_lt_of_digit? h) digit (by rwa [hc])
    rwa [hc] at hdigit
  · have hwritten : ∀ digit < 16, digit? 16 digit.digitChar = some digit ∧
        digit? 16 digit.digitChar.toUpper = some digit := by
      decide
    rintro ⟨hlt, rfl | rfl⟩
    · exact (hwritten digit hlt).1
    · exact (hwritten digit hlt).2

theorem forall₂_isHexDigit_iff {digits : List Nat} :
    List.Forall₂ IsHexDigit cs digits ↔
      (∀ c ∈ cs, (digit? 16 c).isSome) ∧ digits = cs.map fun c => (digit? 16 c).getD 0 := by
  induction cs generalizing digits with
  | nil => simp
  | cons c cs ih =>
    rw [List.forall₂_cons_left_iff]
    simp only [ih, ← digit?_eq_some_iff]
    constructor
    · rintro ⟨digit, rest, hdigit, ⟨hsome, rfl⟩, rfl⟩
      refine ⟨List.forall_mem_cons.2 ⟨?_, hsome⟩, ?_⟩
      · rw [hdigit, Option.isSome_some]
      · rw [List.map_cons, hdigit, Option.getD_some]
    · rintro ⟨hsome, rfl⟩
      obtain ⟨hc, hcs⟩ := List.forall_mem_cons.1 hsome
      obtain ⟨digit, hdigit⟩ := Option.isSome_iff_exists.1 hc
      exact ⟨digit, _, hdigit, ⟨hcs, rfl⟩, by rw [List.map_cons, hdigit, Option.getD_some]⟩

/-- The value of digits, the first of which counts most. -/
theorem ofDigits_reverse (digits : List Nat) :
    Nat.ofDigits 16 digits.reverse = digits.foldl (fun value digit => value * 16 + digit) 0 := by
  rw [Nat.ofDigits_eq_foldr, List.foldr_reverse]
  simp only [Nat.cast_id, Nat.add_comm, Nat.mul_comm]

/-- **Hexadecimal digits are read as the number that they stand for**, and nothing else is read. -/
theorem hexadecimal_iff : natural? 16 cs = some n ↔ Hexadecimal cs n := by
  cases cs with
  | nil => exact ⟨nofun, fun h => absurd rfl h.1⟩
  | cons c cs =>
    rw [natural?, foldlM_extend_eq_some_iff, Hexadecimal]
    simp only [forall₂_isHexDigit_iff, ne_eq, reduceCtorEq, not_false_eq_true, true_and, and_assoc,
      exists_and_left, exists_eq_left, ofDigits_reverse, List.foldl_map]

theorem plus_not_mem_of_hexadecimal (h : Hexadecimal cs n) : '+' ∉ cs := by
  obtain ⟨-, digits, hdigits, -⟩ := h
  intro hmem
  have hplus := (forall₂_isHexDigit_iff.1 hdigits).1 '+' hmem
  exact absurd hplus (by decide)

theorem natural?_unsigned_sixteen_iff :
    natural? 16 (unsigned cs) = some n ↔ UnsignedHexadecimal cs n := by
  rw [hexadecimal_iff]
  exact of_unsigned_iff plus_not_mem_of_hexadecimal

/-! ## Written numbers -/

theorem Hexadecimal.concat (h : Hexadecimal cs n) (hdigit : IsHexDigit c digit) :
    Hexadecimal (cs ++ [c]) (16 * n + digit) := by
  obtain ⟨-, digits, hdigits, rfl⟩ := h
  refine ⟨by simp, digits ++ [digit], ?_, ?_⟩
  · exact List.rel_append hdigits (.cons hdigit .nil)
  · rw [List.reverse_concat, Nat.ofDigits_cons, Nat.add_comm]

/-- A number is written in base sixteen by digits that stand for it. -/
theorem hexadecimal_toDigits (n : Nat) : Hexadecimal (Nat.toDigits 16 n) n := by
  rw [Nat.toDigits_eq_if (by decide)]
  split_ifs with hlt
  · exact ⟨by simp, [n], .cons ⟨hlt, .inl rfl⟩ .nil, by simp⟩
  · have hdigit : IsHexDigit (n % 16).digitChar (n % 16) := ⟨Nat.mod_lt n (by decide), .inl rfl⟩
    have h := (hexadecimal_toDigits (n / 16)).concat hdigit
    rwa [Nat.div_add_mod] at h

theorem Hexadecimal.replicate (h : Hexadecimal cs n) (zeros : Nat) :
    Hexadecimal (List.replicate zeros '0' ++ cs) n := by
  induction zeros with
  | zero => exact h
  | succ zeros ih =>
    obtain ⟨-, digits, hdigits, hn⟩ := ih
    refine ⟨by simp [List.replicate_succ], 0 :: digits, .cons ⟨by decide, .inl rfl⟩ hdigits, ?_⟩
    rw [List.reverse_cons, Nat.ofDigits_append, ← hn]
    simp

theorem Hexadecimal.toUpper (h : Hexadecimal cs n) : Hexadecimal (cs.map Char.toUpper) n := by
  obtain ⟨hne, digits, hdigits, hn⟩ := h
  refine ⟨by simpa using hne, digits, ?_, hn⟩
  rw [List.forall₂_map_left_iff]
  refine hdigits.imp ?_
  have htwice : ∀ digit < 16, digit.digitChar.toUpper.toUpper = digit.digitChar.toUpper := by decide
  rintro c digit ⟨hlt, rfl | rfl⟩
  · exact ⟨hlt, .inr rfl⟩
  · exact ⟨hlt, .inr (htwice digit hlt)⟩

end

end Bootstrapper.Numeral
