import Bootstrapper.Proofs.Text.WellFormed

/-!
# Text from bytes that need not be text

What is no character becomes a replacement character. A byte below 128 is always a character of its
own, so it parts what stands before it from what stands after it (`lossy_append`), and it is there
afterwards exactly if it was there before (`mem_lossy_iff`). A text without a replacement character
comes from its own bytes only (`lossy_eq_encode_iff`).
-/

namespace Bootstrapper.Utf8

/-! ## Bytes below 128 -/

/-- The byte after a lead byte is not below 128. -/
theorem low_of_lead? {b : UInt8} {p : Pending} (h : lead? b = some p) : 128 ≤ p.low.toNat := by
  rcases lead?_cases h with ⟨-, -, -, -, hlow, -⟩ | ⟨-, -, -, -, hlow, -⟩ | ⟨-, -, -, -, hlow, -⟩
  · omega
  · split at hlow <;> omega
  · split at hlow <;> omega

theorem low_of_begin {b : UInt8} {p : Pending} (h : (begin b).2 = some p) :
    128 ≤ p.low.toNat := by
  unfold begin at h
  split at h
  · cases h
  · split at h
    · rename_i hlead
      exact Option.some.inj h ▸ low_of_lead? hlead
    · cases h

/-- What has begun waits for bytes of at least 128, also after another one of them. -/
theorem low_of_step {state : Option Pending} {b : UInt8} {p : Pending}
    (h : (step state b).2 = some p) : 128 ≤ p.low.toNat := by
  cases state with
  | none => exact low_of_begin h
  | some q =>
    unfold step at h
    dsimp only at h
    split at h
    · split at h
      · cases h
      · obtain rfl := Option.some.inj h
        show 128 ≤ (0x80 : UInt8).toNat
        decide
    · exact low_of_begin h

/-- **A byte below 128 is read on its own**, whatever has begun before it. -/
theorem scan_append_ascii {b : UInt8} (hb : b.toNat < 128) (before after : Bytes)
    (state : Option Pending) (hstate : ∀ p, state = some p → 128 ≤ p.low.toNat) :
    scan state (before ++ b :: after) = scan state before ++ scan none (b :: after) := by
  induction before generalizing state with
  | nil =>
    cases state with
    | none => rfl
    | some p =>
      -- what has begun is given up
      have hout : ¬ (p.low ≤ b ∧ b ≤ p.high) := by
        rintro ⟨hlow, -⟩
        have hlow := UInt8.le_iff_toNat_le.1 hlow
        have := hstate p rfl
        omega
      rw [List.nil_append, scan_cons, step, if_neg hout, scan_cons, step]
      rfl
  | cons a before ih =>
    rw [List.cons_append, scan_cons, scan_cons, ih _ fun p => low_of_step, List.append_assoc]

/-! ## Bytes that are read -/

/-- Where a part is given up, the reading begins anew behind it. -/
theorem exists_suffix_of_none {out : List (Option Char)} {bs : Bytes} {state : Option Pending}
    (h : scan state bs = none :: out) : ∃ rest, rest <:+ bs ∧ scan none rest = out := by
  induction bs generalizing state with
  | nil =>
    cases state with
    | none => cases h
    | some p => exact ⟨[], List.suffix_rfl, (List.cons.inj h).2⟩
  | cons b bs ih =>
    have hbegin : (begin b).1 ++ scan (begin b).2 bs = none :: out →
        ∃ rest, rest <:+ b :: bs ∧ scan none rest = out := by
      intro h
      unfold begin at h
      split at h
      · cases h
      · split at h
        · obtain ⟨rest, hrest, hscan⟩ := ih h
          exact ⟨rest, hrest.trans (List.suffix_cons b bs), hscan⟩
        · exact ⟨bs, List.suffix_cons b bs, (List.cons.inj h).2⟩
    rw [scan_cons] at h
    cases state with
    | none => exact hbegin h
    | some p =>
      unfold step at h
      dsimp only at h
      split at h
      · split at h
        · cases h
        · obtain ⟨rest, hrest, hscan⟩ := ih h
          exact ⟨rest, hrest.trans (List.suffix_cons b bs), hscan⟩
      · -- the byte that does not fit is read again
        exact ⟨b :: bs, List.suffix_rfl, (List.cons.inj h).2⟩

/-- The bytes of a character that is read are there. -/
theorem subset_of_some_mem_scan {bs : Bytes} {c : Char} (h : some c ∈ scan none bs) :
    String.utf8EncodeChar c ⊆ bs := by
  generalize hout : scan none bs = out at h
  induction out generalizing bs with
  | nil => cases h
  | cons first out ih =>
    cases first with
    | none =>
      obtain ⟨rest, hrest, hscan⟩ := exists_suffix_of_none hout
      exact List.Subset.trans (ih hscan (by simpa using h)) hrest.subset
    | some d =>
      obtain ⟨rest, rfl, hscan⟩ := scan_eq_some_cons hout
      obtain heq | hmem := List.mem_cons.1 h
      · obtain rfl := Option.some.inj heq
        exact List.subset_append_left _ _
      · exact List.Subset.trans (ih hscan hmem) (List.subset_append_right _ _)

/-! ## Lossy text -/

/-- The bytes of the text that bytes are shown as. -/
def lossy (bs : Bytes) : Bytes :=
  encode (decodeLossy bs)

theorem lossy_eq (bs : Bytes) :
    lossy bs = ((scan none bs).map (·.getD '\uFFFD')).flatMap String.utf8EncodeChar := by
  rw [lossy, encode, decodeLossy, String.toList_ofList]

@[simp] theorem lossy_encode (text : String) : lossy (encode text) = encode text :=
  congrArg encode (decodeLossy_encode text)

/-- **A byte below 128 parts what is shown** of the bytes before it and after it. -/
theorem lossy_append {b : UInt8} (hb : b.toNat < 128) (before after : Bytes) :
    lossy (before ++ b :: after) = lossy before ++ b :: lossy after := by
  rw [lossy_eq, lossy_eq, lossy_eq, scan_append_ascii hb before after none (by simp),
    scan_ascii after hb, List.map_append, List.map_cons, List.flatMap_append, List.flatMap_cons,
    Option.getD_some, utf8EncodeChar_ofNat hb, List.singleton_append]

/-- A text without a replacement character is shown for its own bytes only. -/
theorem lossy_eq_encode_iff {bs : Bytes} {text : String} (h : '\uFFFD' ∉ text.toList) :
    lossy bs = encode text ↔ bs = encode text := by
  constructor
  · intro hlossy
    have hdecoded := congrArg decode? hlossy
    rw [lossy, decode?_encode, decode?_encode] at hdecoded
    have hchars : (scan none bs).map (·.getD '\uFFFD') = text.toList := by
      rw [← Option.some.inj hdecoded, decodeLossy, String.toList_ofList]
    -- nothing was replaced
    have hscan : scan none bs = text.toList.map some := by
      rw [← hchars, List.map_map]
      refine (List.map_id _).symm.trans (List.map_congr_left fun c hc => ?_)
      cases c with
      | some c => rfl
      | none => exact absurd (hchars ▸ List.mem_map_of_mem hc) h
    exact scan_eq_map_some hscan
  · rintro rfl
    exact lossy_encode text

/-- A byte below 128 is shown exactly if it is there. -/
theorem mem_lossy_iff {b : UInt8} (hb : b.toNat < 128) {bs : Bytes} : b ∈ lossy bs ↔ b ∈ bs := by
  constructor
  · intro h
    rw [lossy, ascii_mem_encode hb, decodeLossy, String.toList_ofList] at h
    obtain ⟨c, hc, hshown⟩ := List.mem_map.1 h
    cases c with
    | some c =>
      obtain rfl : c = Char.ofNat b.toNat := hshown
      refine subset_of_some_mem_scan hc ?_
      rw [utf8EncodeChar_ofNat hb]
      exact List.mem_singleton_self b
    | none =>
      -- a replacement character has another number
      have hnumber : (Char.ofNat b.toNat).toNat = b.toNat :=
        toNat_ofNat_of_valid (.inl (by omega))
      rw [← hshown] at hnumber
      have : ('\uFFFD').toNat = 0xFFFD := rfl
      simp only [Option.getD_none] at hnumber
      omega
  · intro h
    obtain ⟨before, after, rfl⟩ := List.append_of_mem h
    rw [lossy_append hb]
    exact List.mem_append_right _ List.mem_cons_self

end Bootstrapper.Utf8
