/-!
# Blank characters

The characters with the Unicode property White_Space, and a text without those at its ends.
-/

namespace Bootstrapper

def isBlank (c : Char) : Bool :=
  let n := c.toNat
  (0x09 ≤ n && n ≤ 0x0D) || n = 0x20 || n = 0x85 || n = 0xA0 || n = 0x1680
    || (0x2000 ≤ n && n ≤ 0x200A) || n = 0x2028 || n = 0x2029 || n = 0x202F || n = 0x205F
    || n = 0x3000

def trimBlanks (cs : List Char) : List Char :=
  ((cs.dropWhile isBlank).reverse.dropWhile isBlank).reverse

/-- Blanks at the ends of a text are all that is trimmed off. -/
theorem exists_eq_trimBlanks (cs : List Char) :
    ∃ before after, cs = before ++ trimBlanks cs ++ after ∧ (∀ c ∈ before, isBlank c = true) ∧
      ∀ c ∈ after, isBlank c = true := by
  refine ⟨cs.takeWhile isBlank, ((cs.dropWhile isBlank).reverse.takeWhile isBlank).reverse, ?_,
    fun c hc => List.all_eq_true.1 List.all_takeWhile c hc,
    fun c hc => List.all_eq_true.1 List.all_takeWhile c (List.mem_reverse.1 hc)⟩
  rw [trimBlanks, List.append_assoc, ← List.reverse_append, List.takeWhile_append_dropWhile,
    List.reverse_reverse, List.takeWhile_append_dropWhile]

/-- A text without blanks is what is left when blanks around it are trimmed off. -/
theorem trimBlanks_append {before cs after : List Char} (hbefore : ∀ c ∈ before, isBlank c = true)
    (hafter : ∀ c ∈ after, isBlank c = true) (hne : cs ≠ []) (h : ∀ c ∈ cs, isBlank c = false) :
    trimBlanks (before ++ cs ++ after) = cs := by
  have hkept : ∀ {kept : List Char} (rest : List Char), kept ≠ [] →
      (∀ c ∈ kept, isBlank c = false) → (kept ++ rest).dropWhile isBlank = kept ++ rest := by
    intro kept rest hne h
    obtain ⟨c, kept, rfl⟩ := List.exists_cons_of_ne_nil hne
    exact List.dropWhile_cons_of_neg (by simp [h c List.mem_cons_self])
  have hreversed : cs.reverse.dropWhile isBlank = cs.reverse := by
    have hself := hkept [] (by simpa using hne) fun c hc => h c (List.mem_reverse.1 hc)
    rwa [List.append_nil] at hself
  rw [trimBlanks, List.append_assoc, List.dropWhile_append_of_pos hbefore, hkept after hne h,
    List.reverse_append, List.dropWhile_append_of_pos fun c hc => hafter c (List.mem_reverse.1 hc),
    hreversed, List.reverse_reverse]

end Bootstrapper
