import Bootstrapper.Proofs.Path.Full
import Bootstrapper.Proofs.Text.Lines
import Bootstrapper.Proofs.Text.Lossy
import Mathlib.Data.List.Induction

/-!
# Paths as text

A path is shown as text with a replacement character for what is no character. Slashes and dots stay
what they are and where they are, so the shown path has the shown steps (`lossy_rooted`), and of
these the same lead up. A text search for two dots in a row finds them exactly inside of a name
(`mentions_dots_iff`): it does not tell a name that holds them from the segment `..`.
-/

namespace Bootstrapper.Path

open Bytes (dot slash)
open Utf8 (lossy)

/-! ## Shown segments -/

theorem slash_mem_lossy {segment : Bytes} : slash ∈ lossy segment ↔ slash ∈ segment :=
  Utf8.mem_lossy_iff (by decide)

/-- A segment is shown as dots, or as nothing, only if it is that. -/
theorem lossy_eq_dots_iff {segment : Bytes} {text : String}
    (h : text = "" ∨ text = "." ∨ text = "..") :
    lossy segment = Utf8.encode text ↔ segment = Utf8.encode text := by
  refine Utf8.lossy_eq_encode_iff ?_
  obtain rfl | rfl | rfl := h <;> decide

theorem stays_lossy (segment : Bytes) : stays (lossy segment) = stays segment := by
  have hempty : lossy segment = [] ↔ segment = [] := lossy_eq_dots_iff (.inl rfl)
  have hdot : lossy segment = [dot] ↔ segment = [dot] := lossy_eq_dots_iff (.inr (.inl rfl))
  rw [Bool.eq_iff_iff]
  simp [stays, hempty, hdot]

theorem climbs_lossy (segment : Bytes) : climbs (lossy segment) = climbs segment :=
  decide_eq_decide.2 (lossy_eq_dots_iff (.inr (.inr rfl)))

theorem IsStep.lossy {segment : Bytes} (h : IsStep segment) : IsStep (Utf8.lossy segment) :=
  ⟨mt slash_mem_lossy.1 h.slash_not_mem, (stays_lossy segment).trans h.leads⟩

/-! ## Shown paths -/

theorem lossy_chain (names : List Bytes) :
    lossy (names.flatMap (slash :: ·)) = (names.map lossy).flatMap (slash :: ·) := by
  induction names using List.reverseRecOn with
  | nil => rfl
  | append_singleton names name ih =>
    rw [List.flatMap_append, List.flatMap_singleton, Utf8.lossy_append (by decide), ih,
      List.map_append, List.flatMap_append, List.map_singleton, List.flatMap_singleton]

/-- **An absolute form is shown as that of the shown steps.** -/
theorem lossy_rooted (doubled : Bool) (ss : List Bytes) :
    lossy (rooted doubled ss) = rooted doubled (ss.map lossy) := by
  have hnames : lossy (ofNames ss) = ofNames (ss.map lossy) := by
    cases ss with
    | nil => decide
    | cons s ss =>
      rw [ofNames_eq (by simp), ofNames_eq (by simp), lossy_chain]
  cases doubled with
  | false => exact hnames
  | true =>
    have hslash : lossy (slash :: ofNames ss) = lossy [] ++ slash :: lossy (ofNames ss) :=
      Utf8.lossy_append (by decide) [] _
    rw [rooted, if_pos rfl, hslash, hnames]
    rfl

/-! ## Two dots in a row -/

/-- Nothing without dots adds to dots in a row. -/
theorem dots_infix_append {before after : Bytes} (h : dot ∉ before) :
    [dot, dot] <:+: before ++ after ↔ [dot, dot] <:+: after := by
  induction before with
  | nil => rfl
  | cons b before ih =>
    have hb : dot ≠ b := fun he => h (he ▸ List.mem_cons_self)
    rw [List.cons_append, List.infix_cons_iff, ih fun hmem => h (List.mem_cons_of_mem b hmem)]
    simp [List.cons_prefix_cons, hb]

theorem singleton_isPrefix_iff {α : Type} {a : α} {l : List α} : [a] <+: l ↔ l.head? = some a := by
  cases l <;> simp [eq_comm]

/-- Two dots in a row are written as two bytes in a row, and by nothing else. -/
theorem dots_infix_encode {text : String} :
    [dot, dot] <:+: Utf8.encode text ↔ ['.', '.'] <:+: text.toList := by
  unfold Utf8.encode
  induction text.toList with
  | nil => simp
  | cons c cs ih =>
    rw [List.flatMap_cons, List.infix_cons_iff, ← ih]
    by_cases hc : c = '.'
    · subst hc
      have hhead : (cs.flatMap String.utf8EncodeChar).head? = some dot ↔ cs.head? = some '.' := by
        have hhead : (Utf8.encode (String.ofList cs)).head? = some dot ↔ _ :=
          Utf8.head?_encode_eq_ascii (by decide)
        rwa [Utf8.encode, String.toList_ofList] at hhead
      have hdot : String.utf8EncodeChar '.' = [dot] := by decide
      rw [hdot, List.singleton_append, List.infix_cons_iff, List.cons_prefix_cons,
        List.cons_prefix_cons, singleton_isPrefix_iff, singleton_isPrefix_iff, hhead]
      simp only [true_and]
    · have hdot : dot ∉ String.utf8EncodeChar c := fun hmem =>
        hc (Utf8.eq_ofNat_of_mem_utf8EncodeChar (by decide) hmem)
      rw [dots_infix_append hdot]
      simp [List.cons_prefix_cons, Ne.symm hc]

/-- A slash parts dots from dots. -/
theorem dots_infix_slash {before after : Bytes} :
    [dot, dot] <:+: before ++ slash :: after ↔
      [dot, dot] <:+: before ∨ [dot, dot] <:+: after := by
  have hslash : dot ≠ slash := by decide
  induction before with
  | nil =>
    have hafter : [dot, dot] <:+: [slash] ++ after ↔ [dot, dot] <:+: after :=
      dots_infix_append (by decide)
    simpa using hafter
  | cons b before ih =>
    have hbegin : [dot, dot] <+: b :: (before ++ slash :: after) ↔ [dot, dot] <+: b :: before := by
      cases before <;> simp [List.cons_prefix_cons, hslash]
    have hcons : [dot, dot] <:+: b :: (before ++ slash :: after) ↔
        [dot, dot] <+: b :: before ∨ [dot, dot] <:+: before ++ slash :: after :=
      List.infix_cons_iff.trans (or_congr_left hbegin)
    exact hcons.trans ((or_congr_right ih).trans
      (or_assoc.symm.trans (or_congr_left List.infix_cons_iff.symm)))

theorem dots_infix_chain {names : List Bytes} :
    [dot, dot] <:+: names.flatMap (slash :: ·) ↔ ∃ name ∈ names, [dot, dot] <:+: name := by
  induction names using List.reverseRecOn with
  | nil => simp
  | append_singleton names name ih =>
    rw [List.flatMap_append, List.flatMap_singleton, dots_infix_slash, ih]
    simp [or_and_right, exists_or]

/-- **A path mentions two dots in a row** exactly if one of its names holds them. -/
theorem mentions_dots_iff {text : String} {names : List Bytes} (h : Utf8.encode text = ofNames names) :
    mentions text ".." = true ↔ ∃ name ∈ names, [dot, dot] <:+: name := by
  have htext : mentions text ".." = true ↔ [dot, dot] <:+: ofNames names := by
    rw [mentions_iff, ← h, dots_infix_encode]
    rfl
  rw [htext]
  cases names with
  | nil => simp [ofNames, List.infix_cons_iff, List.cons_prefix_cons]
  | cons name names => rw [ofNames_eq (by simp), dots_infix_chain]

end Bootstrapper.Path
