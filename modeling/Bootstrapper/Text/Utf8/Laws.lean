import Bootstrapper.Text.Utf8

/-!
# Laws of UTF-8

Reading is the inverse of writing: the bytes of a text are read as that text, whatever follows, and
no replacement character arises. The work is one lemma for each length of a character, in the
arithmetic of its bits.
-/

namespace Bootstrapper.Utf8

/-! ## One byte at a time -/

theorem scan_cons (state : Option Pending) (b : UInt8) (bs : Bytes) :
    scan state (b :: bs) = (step state b).1 ++ scan (step state b).2 bs := by
  cases state <;> rfl

theorem scan_ascii {b : UInt8} (bs : Bytes) (h : b.toNat < 128) :
    scan none (b :: bs) = some (Char.ofNat b.toNat) :: scan none bs := by
  have hb : b < 0x80 := UInt8.lt_iff_toNat_lt.2 h
  simp [scan_cons, step, begin, hb]

theorem scan_lead {b : UInt8} {p : Pending} (bs : Bytes) (h : 128 ≤ b.toNat)
    (hl : lead? b = some p) : scan none (b :: bs) = scan (some p) bs := by
  have hb : ¬ b < 0x80 := fun hlt => by
    have := UInt8.lt_iff_toNat_lt.1 hlt
    simp at this
    omega
  simp [scan_cons, step, begin, hb, hl]

theorem scan_last {p : Pending} {b : UInt8} {v : Nat} (bs : Bytes) (hm : p.more = 0)
    (hb : p.low.toNat ≤ b.toNat ∧ b.toNat ≤ p.high.toNat)
    (hv : p.value * 64 + (b.toNat - 0x80) = v) :
    scan (some p) (b :: bs) = some (Char.ofNat v) :: scan none bs := by
  have hr : p.low ≤ b ∧ b ≤ p.high := hb.imp UInt8.le_iff_toNat_le.2 UInt8.le_iff_toNat_le.2
  rw [scan_cons, step, if_pos hr, hm, ← hv]
  rfl

theorem scan_more {p : Pending} {b : UInt8} {v more : Nat} (bs : Bytes) (hm : p.more = more + 1)
    (hb : p.low.toNat ≤ b.toNat ∧ b.toNat ≤ p.high.toNat)
    (hv : p.value * 64 + (b.toNat - 0x80) = v) :
    scan (some p) (b :: bs) = scan (some ⟨v, more, 0x80, 0xBF⟩) bs := by
  have hr : p.low ≤ b ∧ b ≤ p.high := hb.imp UInt8.le_iff_toNat_le.2 UInt8.le_iff_toNat_le.2
  rw [scan_cons, step, if_pos hr, hm, ← hv]
  rfl

/-- The range of every byte after the second. -/
theorem tail_range {b : UInt8} {v more n : Nat} (h : b.toNat = n % 64 + 128) :
    (Pending.mk v more 0x80 0xBF).low.toNat ≤ b.toNat
      ∧ b.toNat ≤ (Pending.mk v more 0x80 0xBF).high.toNat := by
  have hlow : (0x80 : UInt8).toNat = 128 := rfl
  have hhigh : (0xBF : UInt8).toNat = 191 := rfl
  simp only [hlow, hhigh]
  omega

/-! ## One character at a time -/

theorem toNat_ofNat_of_lt {n : Nat} (h : n < 256) : (UInt8.ofNat n).toNat = n := by
  simp [Nat.mod_eq_of_lt h]

/-- A character is no surrogate and lies in the range of Unicode. -/
theorem toNat_range (c : Char) :
    c.toNat < 0xD800 ∨ (0xDFFF < c.toNat ∧ c.toNat < 0x110000) := c.valid

/-- Two bytes are read as the character whose bits they carry. -/
theorem scan_two {v : Nat} (bs : Bytes) (hlow : 0x80 ≤ v) (hhigh : v < 0x800) :
    scan none (UInt8.ofNat (v / 64 % 32 + 192) :: UInt8.ofNat (v % 64 + 128) :: bs)
      = some (Char.ofNat v) :: scan none bs := by
  have h1 := toNat_ofNat_of_lt (n := v / 64 % 32 + 192) (by omega)
  have h2 := toNat_ofNat_of_lt (n := v % 64 + 128) (by omega)
  have hl : lead? (UInt8.ofNat (v / 64 % 32 + 192)) = some ⟨v / 64, 0, 0x80, 0xBF⟩ := by
    rw [lead?, h1, if_neg (by omega), if_pos (by omega),
      show v / 64 % 32 + 192 - 0xC0 = v / 64 by omega]
  rw [scan_lead _ (by omega) hl,
    scan_last (v := v) _ rfl (tail_range h2) (by simp only [h2]; omega)]

/-- Three bytes are read as the character whose bits they carry, unless it is a surrogate. -/
theorem scan_three {v : Nat} (bs : Bytes) (hlow : 0x800 ≤ v) (hhigh : v < 0x10000)
    (hs : v < 0xD800 ∨ 0xDFFF < v) :
    scan none (UInt8.ofNat (v / 4096 % 16 + 224) :: UInt8.ofNat (v / 64 % 64 + 128)
      :: UInt8.ofNat (v % 64 + 128) :: bs) = some (Char.ofNat v) :: scan none bs := by
  have h1 := toNat_ofNat_of_lt (n := v / 4096 % 16 + 224) (by omega)
  have h2 := toNat_ofNat_of_lt (n := v / 64 % 64 + 128) (by omega)
  have h3 := toNat_ofNat_of_lt (n := v % 64 + 128) (by omega)
  -- the lead byte's range of the second byte excludes short forms and surrogates
  have hl : ∃ p : Pending, lead? (UInt8.ofNat (v / 4096 % 16 + 224)) = some p ∧
      p.value = v / 4096 ∧ p.more = 1 ∧
      p.low.toNat ≤ v / 64 % 64 + 128 ∧ v / 64 % 64 + 128 ≤ p.high.toNat := by
    rw [lead?, h1, if_neg (by omega), if_neg (by omega)]
    by_cases he : v / 4096 % 16 + 224 = 0xE0
    · exact ⟨_, if_pos he, by simp; omega, rfl, by simp; omega, by simp; omega⟩
    rw [if_neg he]
    by_cases hd : v / 4096 % 16 + 224 = 0xED
    · exact ⟨_, if_pos hd, by simp; omega, rfl, by simp, by simp; omega⟩
    rw [if_neg hd, if_pos (by omega)]
    exact ⟨_, rfl, by simp; omega, rfl, by simp, by simp; omega⟩
  obtain ⟨p, hp, hv, hm, hlo, hhi⟩ := hl
  rw [scan_lead _ (by omega) hp, scan_more _ hm (by omega) rfl,
    scan_last (v := v) _ rfl (tail_range h3) (by simp only [hv, h2, h3]; omega)]

/-- Four bytes are read as the character whose bits they carry. -/
theorem scan_four {v : Nat} (bs : Bytes) (hlow : 0x10000 ≤ v) (hhigh : v < 0x110000) :
    scan none (UInt8.ofNat (v / 262144 % 8 + 240) :: UInt8.ofNat (v / 4096 % 64 + 128)
      :: UInt8.ofNat (v / 64 % 64 + 128) :: UInt8.ofNat (v % 64 + 128) :: bs)
      = some (Char.ofNat v) :: scan none bs := by
  have h1 := toNat_ofNat_of_lt (n := v / 262144 % 8 + 240) (by omega)
  have h2 := toNat_ofNat_of_lt (n := v / 4096 % 64 + 128) (by omega)
  have h3 := toNat_ofNat_of_lt (n := v / 64 % 64 + 128) (by omega)
  have h4 := toNat_ofNat_of_lt (n := v % 64 + 128) (by omega)
  have hl : ∃ p : Pending, lead? (UInt8.ofNat (v / 262144 % 8 + 240)) = some p ∧
      p.value = v / 262144 ∧ p.more = 2 ∧
      p.low.toNat ≤ v / 4096 % 64 + 128 ∧ v / 4096 % 64 + 128 ≤ p.high.toNat := by
    rw [lead?, h1, if_neg (by omega), if_neg (by omega), if_neg (by omega), if_neg (by omega),
      if_neg (by omega)]
    by_cases he : v / 262144 % 8 + 240 = 0xF0
    · exact ⟨_, if_pos he, by simp; omega, rfl, by simp; omega, by simp; omega⟩
    rw [if_neg he]
    by_cases hd : v / 262144 % 8 + 240 < 0xF4
    · exact ⟨_, if_pos hd, by simp; omega, rfl, by simp, by simp; omega⟩
    rw [if_neg hd, if_pos (by omega)]
    exact ⟨_, rfl, by simp; omega, rfl, by simp, by simp; omega⟩
  obtain ⟨p, hp, hv, hm, hlo, hhi⟩ := hl
  rw [scan_lead _ (by omega) hp, scan_more _ hm (by omega) rfl,
    scan_more _ rfl (tail_range h3) rfl,
    scan_last (v := v) _ rfl (tail_range h4) (by simp only [hv, h2, h3, h4]; omega)]

/-- The bytes of a character are read as that character, whatever follows. -/
theorem scan_utf8EncodeChar (c : Char) (bs : Bytes) :
    scan none (String.utf8EncodeChar c ++ bs) = some c :: scan none bs := by
  have hr := toNat_range c
  have hv : c.val.toNat = c.toNat := rfl
  have back : Char.ofNat c.toNat = c := Char.ofNat_toNat c
  unfold String.utf8EncodeChar
  simp only [hv]
  split
  · rename_i h
    have hn := toNat_ofNat_of_lt (n := c.toNat) (by omega)
    rw [List.singleton_append, scan_ascii _ (by omega), hn, back]
  split
  · have h := scan_two (v := c.toNat) bs (by omega) (by omega)
    rwa [back] at h
  split
  · have h := scan_three (v := c.toNat) bs (by omega) (by omega) (by omega)
    rwa [back] at h
  · have h := scan_four (v := c.toNat) bs (by omega) (by omega)
    rwa [back] at h

/-! ## Single bytes -/

/-- A byte below 128 is written only for the character with its number. -/
theorem eq_ofNat_of_mem_utf8EncodeChar {c : Char} {b : UInt8} (hb : b.toNat < 128)
    (h : b ∈ String.utf8EncodeChar c) : c = Char.ofNat b.toNat := by
  have hnumber : ∀ n, n < 256 → b = UInt8.ofNat n → b.toNat = n := by
    rintro n hn rfl
    exact toNat_ofNat_of_lt hn
  have hr := toNat_range c
  have hv : c.val.toNat = c.toNat := rfl
  unfold String.utf8EncodeChar at h
  simp only [hv] at h
  -- all bytes but those of the shortest form have their highest bit set
  split at h
  · have := hnumber _ (by omega) (List.mem_singleton.1 h)
    rw [this, Char.ofNat_toNat]
  split at h
  · simp only [List.mem_cons, List.not_mem_nil, or_false] at h
    rcases h with h | h <;> have := hnumber _ (by omega) h <;> omega
  split at h
  · simp only [List.mem_cons, List.not_mem_nil, or_false] at h
    rcases h with h | h | h <;> have := hnumber _ (by omega) h <;> omega
  · simp only [List.mem_cons, List.not_mem_nil, or_false] at h
    rcases h with h | h | h | h <;> have := hnumber _ (by omega) h <;> omega

theorem utf8EncodeChar_ofNat {b : UInt8} (hb : b.toNat < 128) :
    String.utf8EncodeChar (Char.ofNat b.toNat) = [b] := by
  have hvalid : b.toNat.isValidChar := .inl (by omega)
  have hv : (Char.ofNat b.toNat).val.toNat = b.toNat := by
    rw [Char.ofNat, dif_pos hvalid]
    rfl
  unfold String.utf8EncodeChar
  simp only [hv]
  rw [if_pos (by omega), UInt8.ofNat_toNat]

/-- **A text is written with a byte below 128 exactly if it holds the character of that number.** -/
theorem ascii_mem_encode {b : UInt8} (hb : b.toNat < 128) {text : String} :
    b ∈ encode text ↔ Char.ofNat b.toNat ∈ text.toList := by
  rw [encode, List.mem_flatMap]
  constructor
  · rintro ⟨c, hc, hmem⟩
    rwa [← eq_ofNat_of_mem_utf8EncodeChar hb hmem]
  · intro h
    refine ⟨_, h, ?_⟩
    rw [utf8EncodeChar_ofNat hb]
    exact List.mem_singleton_self b

/-- What a text is written with first, if that is below 128, tells its first character. -/
theorem head?_encode_eq_ascii {b : UInt8} (hb : b.toNat < 128) {text : String} :
    (encode text).head? = some b ↔ text.toList.head? = some (Char.ofNat b.toNat) := by
  unfold encode
  cases text.toList with
  | nil => simp
  | cons c cs =>
    have hne : String.utf8EncodeChar c ≠ [] := by simp
    obtain ⟨first, rest, he⟩ := List.exists_cons_of_ne_nil hne
    rw [List.flatMap_cons, he, List.cons_append, List.head?_cons, List.head?_cons]
    constructor
    · intro h
      obtain rfl : first = b := Option.some.inj h
      have hmem : first ∈ String.utf8EncodeChar c := by rw [he]; exact List.mem_cons_self
      rw [eq_ofNat_of_mem_utf8EncodeChar hb hmem]
    · intro h
      obtain rfl : c = Char.ofNat b.toNat := Option.some.inj h
      rw [utf8EncodeChar_ofNat hb] at he
      rw [(List.cons.inj he).1]

/-! ## Texts -/

@[simp] theorem encode_append (before after : String) :
    encode (before ++ after) = encode before ++ encode after := by
  rw [encode, String.toList_append, List.flatMap_append, encode, encode]

/-- The bytes of a text are read as its characters. -/
theorem scan_encode (text : String) (bs : Bytes) :
    scan none (encode text ++ bs) = text.toList.map some ++ scan none bs := by
  unfold encode
  induction text.toList with
  | nil => rfl
  | cons c cs ih =>
    rw [List.flatMap_cons, List.append_assoc, scan_utf8EncodeChar, ih]
    rfl

@[simp] theorem decodeLossy_encode (text : String) : decodeLossy (encode text) = text := by
  have h := scan_encode text []
  rw [List.append_nil] at h
  simp [decodeLossy, h, scan, Function.comp_def]

@[simp] theorem decode?_encode (text : String) : decode? (encode text) = some text := by
  have h := scan_encode text []
  rw [List.append_nil] at h
  have all : ∀ cs : List Char, (cs.map some).mapM id = some cs := by
    intro cs
    induction cs with
    | nil => rfl
    | cons c cs ih => simp [ih]
  simp [decode?, h, scan, all]

theorem mapM_decode?_encode (texts : List String) :
    (texts.map Utf8.encode).mapM Utf8.decode? = some texts := by
  induction texts with
  | nil => rfl
  | cons text texts ih => simp [ih]

end Bootstrapper.Utf8
