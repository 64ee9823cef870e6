import Bootstrapper.Text.Utf8.Laws

/-!
# Cutting a text

A text that is taken apart by the numbers of its bytes may be cut only between two characters. This
is told from one byte, the one behind the cut: it begins a character (`Boundary`). What is cut off
there is a text, and cutting elsewhere fails.

* **`boundary_iff`**: the boundaries of a text are the lengths of the texts that it begins with.
* **`through?_eq_some_iff`**: the slice up to and including a byte comes out exactly if a text that
  the whole begins with ends there, and is that text.
-/

namespace Bootstrapper.Utf8

variable {text part : String} {place : Nat}

/-- Where bytes may be cut: before a byte that begins a character, and at the end. -/
def Boundary (bs : Bytes) (place : Nat) : Prop :=
  place = bs.length ∨ ∃ b ∈ bs[place]?, b.IsUTF8FirstByte

instance (bs : Bytes) (place : Nat) : Decidable (Boundary bs place) :=
  inferInstanceAs (Decidable (_ ∨ _))

/-- The part of a text up to a byte, with that byte. It fails if the text has no such byte, and if
the cut behind it would go through a character. -/
def through? (text : String) (place : Nat) : Option String :=
  if Boundary (encode text) (place + 1) then decode? ((encode text).take (place + 1)) else none

/-! ## Boundaries -/

/-- The bytes of a character are entered at the first of them only. -/
theorem boundary_utf8EncodeChar_append {c : Char} {bs : Bytes}
    (hplace : place < (String.utf8EncodeChar c).length) :
    Boundary (String.utf8EncodeChar c ++ bs) place ↔ place = 0 := by
  have hbyte : (String.utf8EncodeChar c ++ bs)[place]? =
      some (String.utf8EncodeChar c)[place] := by
    rw [List.getElem?_append_left hplace, List.getElem?_eq_getElem hplace]
  have hend : place ≠ (String.utf8EncodeChar c ++ bs).length := by
    rw [List.length_append]
    omega
  rw [Boundary, hbyte]
  simp only [hend, false_or, Option.mem_some_iff, exists_eq_left',
    UInt8.isUTF8FirstByte_getElem_utf8EncodeChar]

/-- Behind other bytes boundaries are where they were. -/
theorem boundary_append_length {before bs : Bytes} :
    Boundary (before ++ bs) (before.length + place) ↔ Boundary bs place := by
  have hbyte : (before ++ bs)[before.length + place]? = bs[place]? := by
    rw [List.getElem?_append_right (Nat.le_add_right _ _), Nat.add_sub_cancel_left]
  rw [Boundary, Boundary, hbyte, List.length_append, Nat.add_left_cancel_iff]

theorem boundary_flatMap_iff {cs : List Char} :
    Boundary (cs.flatMap String.utf8EncodeChar) place ↔
      ∃ before after, cs = before ++ after ∧
        (before.flatMap String.utf8EncodeChar).length = place := by
  induction cs generalizing place with
  | nil => simp [Boundary, eq_comm]
  | cons c cs ih =>
    rw [List.flatMap_cons]
    by_cases hplace : place < (String.utf8EncodeChar c).length
    · rw [boundary_utf8EncodeChar_append hplace]
      constructor
      · rintro rfl
        exact ⟨[], c :: cs, rfl, rfl⟩
      · rintro ⟨before, after, hcs, rfl⟩
        -- a part that holds the first character is too long
        cases before with
        | nil => rfl
        | cons first before =>
          obtain ⟨rfl, -⟩ := List.cons.inj hcs
          rw [List.flatMap_cons, List.length_append] at hplace
          omega
    · obtain ⟨more, rfl⟩ := Nat.le.dest (Nat.le_of_not_lt hplace)
      rw [boundary_append_length, ih]
      constructor
      · rintro ⟨before, after, rfl, rfl⟩
        exact ⟨c :: before, after, rfl, by rw [List.flatMap_cons, List.length_append]⟩
      · rintro ⟨before, after, hcs, hlength⟩
        cases before with
        | nil =>
          have hpos : 0 < (String.utf8EncodeChar c).length := by
            rw [String.length_utf8EncodeChar]
            exact c.utf8Size_pos
          rw [List.flatMap_nil, List.length_nil] at hlength
          omega
        | cons first before =>
          obtain ⟨rfl, rfl⟩ := List.cons.inj hcs
          rw [List.flatMap_cons, List.length_append, Nat.add_left_cancel_iff] at hlength
          exact ⟨before, after, rfl, hlength⟩

/-- **The boundaries of a text** are the lengths of the texts that it begins with. -/
theorem boundary_iff :
    Boundary (encode text) place ↔
      ∃ before after, text = before ++ after ∧ (encode before).length = place := by
  rw [encode, boundary_flatMap_iff]
  constructor
  · rintro ⟨before, after, htext, hlength⟩
    refine ⟨String.ofList before, String.ofList after, ?_, ?_⟩
    · rw [← String.ofList_append, ← htext, String.ofList_toList]
    · rwa [encode, String.toList_ofList]
  · rintro ⟨before, after, rfl, hlength⟩
    exact ⟨before.toList, after.toList, String.toList_append, hlength⟩

/-! ## Slices -/

/-- **What a slice is**: a text that the whole begins with and that ends with the byte. -/
theorem through?_eq_some_iff :
    through? text place = some part ↔
      (∃ rest, text = part ++ rest) ∧ (encode part).length = place + 1 := by
  unfold through?
  constructor
  · intro h
    split at h
    · next hcut =>
      obtain ⟨before, after, rfl, hlength⟩ := boundary_iff.1 hcut
      rw [encode_append, ← hlength, List.take_left, decode?_encode] at h
      obtain rfl := Option.some.inj h
      exact ⟨⟨after, rfl⟩, hlength⟩
    · cases h
  · rintro ⟨⟨rest, rfl⟩, hlength⟩
    rw [if_pos (boundary_iff.2 ⟨part, rest, rfl, hlength⟩), encode_append, ← hlength,
      List.take_left, decode?_encode]

end Bootstrapper.Utf8
