import Bootstrapper.Text.Utf8.Laws

/-!
# Well-formed text

`Text.Utf8.Laws` reads back what was written. This module is the other direction: what the scanner
takes for characters was written as these characters. So a byte string is text in one way only, and
`decode?` accepts exactly the byte strings that some text is written as
(`decode?_eq_some_iff`).

The scanner has no check of the value that it has read. What keeps overlong forms, surrogates and
values beyond the last character out are the ranges that a lead byte sets for the byte after it;
`lead?_cases` collects them, one line for each length.
-/

namespace Bootstrapper.Utf8

/-! ## What a byte lets follow -/

/-- The lead bytes by the length of their characters, with the bits that they carry and the range
of the byte after them. -/
theorem lead?_cases {b : UInt8} {p : Pending} (h : lead? b = some p) :
    (p.more = 0 ∧ 0xC2 ≤ b.toNat ∧ b.toNat < 0xE0 ∧ p.value = b.toNat - 0xC0
        ∧ p.low.toNat = 0x80 ∧ p.high.toNat = 0xBF)
      ∨ (p.more = 1 ∧ 0xE0 ≤ b.toNat ∧ b.toNat < 0xF0 ∧ p.value = b.toNat - 0xE0
        ∧ p.low.toNat = (if b.toNat = 0xE0 then 0xA0 else 0x80)
        ∧ p.high.toNat = (if b.toNat = 0xED then 0x9F else 0xBF))
      ∨ (p.more = 2 ∧ 0xF0 ≤ b.toNat ∧ b.toNat < 0xF5 ∧ p.value = b.toNat - 0xF0
        ∧ p.low.toNat = (if b.toNat = 0xF0 then 0x90 else 0x80)
        ∧ p.high.toNat = (if b.toNat = 0xF4 then 0x8F else 0xBF)) := by
  unfold lead? at h
  simp only at h
  split at h
  · cases h
  split at h
  · obtain rfl := Option.some.inj h
    exact .inl ⟨rfl, by omega, by omega, rfl, rfl, rfl⟩
  split at h
  · next hb =>
    obtain rfl := Option.some.inj h
    exact .inr (.inl ⟨rfl, by omega, by omega, by simp [hb], by rw [if_pos hb]; rfl,
      by rw [if_neg (by omega)]; rfl⟩)
  split at h
  · next hb =>
    obtain rfl := Option.some.inj h
    exact .inr (.inl ⟨rfl, by omega, by omega, by simp [hb], by rw [if_neg (by omega)]; rfl,
      by rw [if_pos hb]; rfl⟩)
  split at h
  · obtain rfl := Option.some.inj h
    exact .inr (.inl ⟨rfl, by omega, by omega, rfl, by rw [if_neg (by omega)]; rfl,
      by rw [if_neg (by omega)]; rfl⟩)
  split at h
  · next hb =>
    obtain rfl := Option.some.inj h
    exact .inr (.inr ⟨rfl, by omega, by omega, by simp [hb], by rw [if_pos hb]; rfl,
      by rw [if_neg (by omega)]; rfl⟩)
  split at h
  · obtain rfl := Option.some.inj h
    exact .inr (.inr ⟨rfl, by omega, by omega, rfl, by rw [if_neg (by omega)]; rfl,
      by rw [if_neg (by omega)]; rfl⟩)
  split at h
  · next hb =>
    obtain rfl := Option.some.inj h
    exact .inr (.inr ⟨rfl, by omega, by omega, by simp [hb], by rw [if_neg (by omega)]; rfl,
      by rw [if_pos hb]; rfl⟩)
  · cases h

/-- What is read after a character has begun is never nothing. -/
theorem scan_pending_ne_nil (p : Pending) (bs : Bytes) : scan (some p) bs ≠ [] := by
  induction bs generalizing p with
  | nil => exact List.cons_ne_nil _ _
  | cons b bs ih =>
    rw [scan_cons, step]
    split
    · split
      · exact List.cons_ne_nil _ _
      · exact ih _
    · exact List.cons_ne_nil _ _

/-- A character that has begun and comes out whole goes on with a byte in range, after which it is
complete or goes on. -/
theorem scan_pending_eq_some {p : Pending} {bs : Bytes} {c : Char} {out : List (Option Char)}
    (h : scan (some p) bs = some c :: out) :
    ∃ b rest, bs = b :: rest ∧ p.low.toNat ≤ b.toNat ∧ b.toNat ≤ p.high.toNat ∧
      match p.more with
      | 0 => c = Char.ofNat (p.value * 64 + (b.toNat - 0x80)) ∧ scan none rest = out
      | more + 1 =>
        scan (some ⟨p.value * 64 + (b.toNat - 0x80), more, 0x80, 0xBF⟩) rest = some c :: out := by
  cases bs with
  | nil => cases h
  | cons b rest =>
    rw [scan_cons, step] at h
    split at h
    · next hr =>
      refine ⟨b, rest, rfl, UInt8.le_iff_toNat_le.1 hr.1, UInt8.le_iff_toNat_le.1 hr.2, ?_⟩
      cases hm : p.more with
      | zero =>
        rw [hm] at h
        obtain ⟨hc, hout⟩ := List.cons.inj h
        exact ⟨(Option.some.inj hc).symm, hout⟩
      | succ more =>
        rw [hm] at h
        exact h
    · cases h

/-- The same after the second byte, where every byte has the same range. -/
theorem scan_tail_eq_some {value more : Nat} {bs : Bytes} {c : Char} {out : List (Option Char)} :
    scan (some ⟨value, more, 0x80, 0xBF⟩) bs = some c :: out →
    ∃ b rest, bs = b :: rest ∧ 0x80 ≤ b.toNat ∧ b.toNat ≤ 0xBF ∧
      match more with
      | 0 => c = Char.ofNat (value * 64 + (b.toNat - 0x80)) ∧ scan none rest = out
      | more + 1 =>
        scan (some ⟨value * 64 + (b.toNat - 0x80), more, 0x80, 0xBF⟩) rest = some c :: out :=
  fun h => scan_pending_eq_some h

/-! ## The bytes of a value

One lemma for each length: bytes that carry the bits of a value are how its character is written. -/

/-- A value outside the surrogates and within Unicode is that of its character. -/
theorem toNat_ofNat_of_valid {v : Nat} (h : v < 0xD800 ∨ (0xDFFF < v ∧ v < 0x110000)) :
    (Char.ofNat v).toNat = v := by
  have hv : v.isValidChar := h
  rw [Char.ofNat, dif_pos hv]
  rfl

theorem encode_one {v : Nat} {a : UInt8} (hv : v < 0x80) (ha : a.toNat = v) :
    String.utf8EncodeChar (Char.ofNat v) = [a] := by
  have hc : (Char.ofNat v).val.toNat = v := toNat_ofNat_of_valid (by omega)
  unfold String.utf8EncodeChar
  simp only [hc]
  rw [if_pos (by omega)]
  congr 1
  exact UInt8.toNat_inj.1 (by rw [toNat_ofNat_of_lt (by omega), ha])

theorem encode_two {v : Nat} {a b : UInt8} (hlow : 0x80 ≤ v) (hhigh : v < 0x800)
    (ha : a.toNat = v / 64 + 0xC0) (hb : b.toNat = v % 64 + 0x80) :
    String.utf8EncodeChar (Char.ofNat v) = [a, b] := by
  have hc : (Char.ofNat v).val.toNat = v := toNat_ofNat_of_valid (by omega)
  unfold String.utf8EncodeChar
  simp only [hc]
  rw [if_neg (by omega), if_pos (by omega)]
  congr 1
  · exact UInt8.toNat_inj.1 (by rw [toNat_ofNat_of_lt (by omega), ha]; omega)
  congr 1
  exact UInt8.toNat_inj.1 (by rw [toNat_ofNat_of_lt (by omega), hb])

theorem encode_three {v : Nat} {a b c : UInt8} (hlow : 0x800 ≤ v) (hhigh : v < 0x10000)
    (hs : v < 0xD800 ∨ 0xDFFF < v) (ha : a.toNat = v / 4096 + 0xE0)
    (hb : b.toNat = v / 64 % 64 + 0x80) (hc : c.toNat = v % 64 + 0x80) :
    String.utf8EncodeChar (Char.ofNat v) = [a, b, c] := by
  have hv : (Char.ofNat v).val.toNat = v := toNat_ofNat_of_valid (by omega)
  unfold String.utf8EncodeChar
  simp only [hv]
  rw [if_neg (by omega), if_neg (by omega), if_pos (by omega)]
  congr 1
  · exact UInt8.toNat_inj.1 (by rw [toNat_ofNat_of_lt (by omega), ha]; omega)
  congr 1
  · exact UInt8.toNat_inj.1 (by rw [toNat_ofNat_of_lt (by omega), hb])
  congr 1
  exact UInt8.toNat_inj.1 (by rw [toNat_ofNat_of_lt (by omega), hc])

theorem encode_four {v : Nat} {a b c d : UInt8} (hlow : 0x10000 ≤ v) (hhigh : v < 0x110000)
    (ha : a.toNat = v / 262144 + 0xF0) (hb : b.toNat = v / 4096 % 64 + 0x80)
    (hc : c.toNat = v / 64 % 64 + 0x80) (hd : d.toNat = v % 64 + 0x80) :
    String.utf8EncodeChar (Char.ofNat v) = [a, b, c, d] := by
  have hv : (Char.ofNat v).val.toNat = v := toNat_ofNat_of_valid (by omega)
  unfold String.utf8EncodeChar
  simp only [hv]
  rw [if_neg (by omega), if_neg (by omega), if_neg (by omega)]
  congr 1
  · exact UInt8.toNat_inj.1 (by rw [toNat_ofNat_of_lt (by omega), ha]; omega)
  congr 1
  · exact UInt8.toNat_inj.1 (by rw [toNat_ofNat_of_lt (by omega), hb])
  congr 1
  · exact UInt8.toNat_inj.1 (by rw [toNat_ofNat_of_lt (by omega), hc])
  congr 1
  exact UInt8.toNat_inj.1 (by rw [toNat_ofNat_of_lt (by omega), hd])

/-! ## What is read was written -/

/-- A character that comes out whole was written where it was read. -/
theorem scan_eq_some_cons {bs : Bytes} {c : Char} {out : List (Option Char)}
    (h : scan none bs = some c :: out) :
    ∃ rest, bs = String.utf8EncodeChar c ++ rest ∧ scan none rest = out := by
  cases bs with
  | nil => cases h
  | cons a bs =>
    by_cases ha : a.toNat < 128
    · rw [scan_ascii bs ha] at h
      obtain ⟨hc, hout⟩ := List.cons.inj h
      obtain rfl := Option.some.inj hc
      exact ⟨bs, by rw [encode_one ha rfl]; rfl, hout⟩
    cases hl : lead? a with
    | none =>
      have hb : ¬ a < 0x80 := fun hlt => ha (UInt8.lt_iff_toNat_lt.1 hlt)
      simp [scan_cons, step, begin, hb, hl] at h
    | some p =>
      rw [scan_lead bs (by omega) hl] at h
      -- the tails have the range 0x80 to 0xBF, but the first one has that of the lead byte
      obtain ⟨b, bs, rfl, hlow, hhigh, h⟩ := scan_pending_eq_some h
      rcases lead?_cases hl with ⟨hm, h1, h2, hv, hpl, hph⟩ | ⟨hm, h1, h2, hv, hpl, hph⟩ |
        ⟨hm, h1, h2, hv, hpl, hph⟩
      · rw [hm, hv] at h
        obtain ⟨hc, hout⟩ := h
        exact ⟨bs, by rw [hc, encode_two (a := a) (b := b) (by omega) (by omega) (by omega)
          (by omega)]; rfl, hout⟩
      · rw [hm, hv] at h
        obtain ⟨c₂, bs, rfl, hlow₂, hhigh₂, hc, hout⟩ := scan_tail_eq_some h
        refine ⟨bs, ?_, hout⟩
        split at hpl <;> split at hph <;>
          rw [hc, encode_three (a := a) (b := b) (c := c₂) (by omega) (by omega) (by omega)
            (by omega) (by omega) (by omega)] <;> rfl
      · rw [hm, hv] at h
        obtain ⟨c₂, bs, rfl, hlow₂, hhigh₂, h⟩ := scan_tail_eq_some h
        obtain ⟨d, bs, rfl, hlow₃, hhigh₃, hc, hout⟩ := scan_tail_eq_some h
        refine ⟨bs, ?_, hout⟩
        split at hpl <;> split at hph <;>
          rw [hc, encode_four (a := a) (b := b) (c := c₂) (d := d) (by omega) (by omega) (by omega)
            (by omega) (by omega) (by omega)] <;> rfl

/-- Where nothing but characters come out, they were written there. -/
theorem scan_eq_map_some {bs : Bytes} {cs : List Char} (h : scan none bs = cs.map some) :
    bs = cs.flatMap String.utf8EncodeChar := by
  induction cs generalizing bs with
  | nil =>
    cases bs with
    | nil => rfl
    | cons b bs =>
      exfalso
      rw [scan_cons, step, begin] at h
      split at h
      · cases h
      split at h
      · exact scan_pending_ne_nil _ bs h
      · cases h
  | cons c cs ih =>
    obtain ⟨rest, rfl, hrest⟩ := scan_eq_some_cons h
    rw [List.flatMap_cons, ← ih hrest]

/-- Nothing is missing from results that can be collected. -/
theorem eq_map_some_of_mapM_id {out : List (Option Char)} {cs : List Char}
    (h : out.mapM id = some cs) : out = cs.map some := by
  induction out generalizing cs with
  | nil =>
    simp only [List.mapM_nil, Option.pure_def, Option.some.injEq] at h
    rw [← h, List.map_nil]
  | cons o out ih =>
    simp only [List.mapM_cons, id_eq, Option.bind_eq_bind, Option.pure_def,
      Option.bind_eq_some_iff, Option.some.injEq] at h
    obtain ⟨c, rfl, cs', h, rfl⟩ := h
    rw [ih h, List.map_cons]

/-- **A byte string is text in one way.** It is accepted exactly if it is what the text is written
as. -/
theorem decode?_eq_some_iff {bs : Bytes} {text : String} :
    decode? bs = some text ↔ bs = encode text := by
  constructor
  · intro h
    obtain ⟨cs, hcs, rfl⟩ := Option.map_eq_some_iff.1 h
    rw [encode, String.toList_ofList]
    exact scan_eq_map_some (eq_map_some_of_mapM_id hcs)
  · rintro rfl
    exact decode?_encode text

end Bootstrapper.Utf8
