/-!
# Byte strings

What the operating system hands over (paths, arguments, values of variables) is a string of bytes
that need not be text. It is kept as a list, so that paths can be taken apart by recursion.
-/

namespace Bootstrapper

/-- A string of bytes, with no promise about what the bytes mean. -/
abbrev Bytes := List UInt8

namespace Bytes

def nul : UInt8 := 0x00

def hyphen : UInt8 := 0x2d

def dot : UInt8 := 0x2e

def slash : UInt8 := 0x2f

def equals : UInt8 := 0x3d

def after? : Bytes → Bytes → Option Bytes
  | [], bs => some bs
  | _ :: _, [] => none
  | s :: start, b :: bs => if s = b then after? start bs else none

theorem after?_eq_some_iff {start bs rest : Bytes} :
    after? start bs = some rest ↔ bs = start ++ rest := by
  induction start generalizing bs with
  | nil => simp [after?]
  | cons s start ih =>
    cases bs with
    | nil => simp [after?]
    | cons b bs =>
      by_cases h : s = b
      · simp [after?, h, ih]
      · simp [after?, h, Ne.symm h]

/-- The part before the first `separator`, and the part after it if there is one. -/
def cut (separator : UInt8) : Bytes → Bytes × Option Bytes
  | [] => ([], none)
  | b :: bs =>
    if b = separator then ([], some bs)
    else
      let parts := cut separator bs
      (b :: parts.1, parts.2)

theorem cut_append {separator : UInt8} {name : Bytes} (h : separator ∉ name) (value : Bytes) :
    cut separator (name ++ separator :: value) = (name, some value) := by
  induction name with
  | nil => simp [cut]
  | cons b name ih =>
    have hb : b ≠ separator := fun he => h (he ▸ List.mem_cons_self)
    have hname : separator ∉ name := fun hmem => h (List.mem_cons_of_mem b hmem)
    rw [List.cons_append, cut, if_neg hb, ih hname]

/-- The parts between the separators: one more than there are separators. -/
def split (separator : UInt8) : Bytes → List Bytes
  | [] => [[]]
  | b :: bs =>
    if b = separator then [] :: split separator bs
    else
      match split separator bs with
      | [] => [[b]]
      | part :: parts => (b :: part) :: parts

theorem split_ne_nil (separator : UInt8) (bs : Bytes) : split separator bs ≠ [] := by
  cases bs with
  | nil => simp [split]
  | cons b bs =>
    rw [split]
    split
    · simp
    · split <;> simp

/-- A separator parts the parts before it from those after it. -/
theorem split_append (separator : UInt8) (before after : Bytes) :
    split separator (before ++ separator :: after) =
      split separator before ++ split separator after := by
  induction before with
  | nil => simp [split]
  | cons b before ih =>
    obtain ⟨part, parts, hparts⟩ := List.exists_cons_of_ne_nil (split_ne_nil separator before)
    rw [List.cons_append, split, split, ih]
    by_cases h : b = separator
    · rw [if_pos h, if_pos h, List.cons_append]
    · rw [if_neg h, if_neg h, hparts]
      rfl

theorem split_of_not_mem {separator : UInt8} {bs : Bytes} (h : separator ∉ bs) :
    split separator bs = [bs] := by
  induction bs with
  | nil => rfl
  | cons b bs ih =>
    have hb : b ≠ separator := fun he => h (he ▸ List.mem_cons_self)
    rw [split, if_neg hb, ih fun hmem => h (List.mem_cons_of_mem b hmem)]

theorem not_mem_of_mem_split {separator : UInt8} {bs part : Bytes}
    (h : part ∈ split separator bs) : separator ∉ part := by
  induction bs generalizing part with
  | nil =>
    obtain rfl := List.mem_singleton.1 h
    exact List.not_mem_nil
  | cons b bs ih =>
    obtain ⟨first, parts, hparts⟩ := List.exists_cons_of_ne_nil (split_ne_nil separator bs)
    rw [split] at h
    split at h
    · obtain rfl | hmem := List.mem_cons.1 h
      · exact List.not_mem_nil
      · exact ih hmem
    · rename_i hb
      rw [hparts] at h ih
      obtain rfl | hmem := List.mem_cons.1 h
      · exact fun hmem => (List.mem_cons.1 hmem).elim (fun he => hb he.symm)
          (ih List.mem_cons_self)
      · exact ih (List.mem_cons_of_mem first hmem)

theorem subset_of_mem_split {separator : UInt8} {bs part : Bytes}
    (h : part ∈ split separator bs) : part ⊆ bs := by
  induction bs generalizing part with
  | nil =>
    obtain rfl := List.mem_singleton.1 h
    exact List.nil_subset []
  | cons b bs ih =>
    obtain ⟨first, parts, hparts⟩ := List.exists_cons_of_ne_nil (split_ne_nil separator bs)
    rw [split, hparts] at h
    rw [hparts] at ih
    split at h <;> obtain rfl | hmem := List.mem_cons.1 h
    · exact List.nil_subset _
    · exact List.subset_cons_of_subset b (ih hmem)
    · exact List.cons_subset_cons b (ih List.mem_cons_self)
    · exact List.subset_cons_of_subset b (ih (List.mem_cons_of_mem first hmem))

/-- The parts with a separator between any two of them are the whole again. -/
theorem intercalate_split (separator : UInt8) (bs : Bytes) :
    [separator].intercalate (split separator bs) = bs := by
  induction bs with
  | nil => rfl
  | cons b bs ih =>
    obtain ⟨part, parts, hparts⟩ := List.exists_cons_of_ne_nil (split_ne_nil separator bs)
    rw [split]
    by_cases h : b = separator
    · rw [if_pos h, List.intercalate_cons_of_ne_nil (split_ne_nil separator bs), ih, h]
      rfl
    · rw [hparts] at ih ⊢
      rw [if_neg h, ← ih]
      cases parts with
      | nil => rfl
      | cons next parts => simp only [List.intercalate_cons_cons, List.cons_append]

end Bytes

end Bootstrapper
