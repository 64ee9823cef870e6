import Bootstrapper.Text.Lines

/-!
# Laws of lines

A text that begins with complete lines has these lines first, whatever follows
(`ofChars_lines`), and every text has as its lines the parts between its line feeds
(`ofChars_eq_ofParts`). So a search for a mark finds the rest of the first line that begins with it
(`firstAfter?_eq_some_iff`): complete lines without the mark are passed over (`firstAfter?_lines`),
and the first complete line that is not passed over decides (`firstAfter?_line`).

A text mentions another one if that is a part of it (`mentions_iff`).

A line keeps its characters but for one carriage return at its end, which is not shown
(`withoutReturn`). A mark at the beginning is not affected by that.
-/

namespace Bootstrapper.Lines

/-! ## Marks -/

theorem after?_eq_some_iff {start cs rest : List Char} :
    after? start cs = some rest ↔ cs = start ++ rest := by
  induction start generalizing cs with
  | nil => simp [after?]
  | cons s start ih =>
    cases cs with
    | nil => simp [after?]
    | cons c cs =>
      by_cases h : s = c
      · simp [after?, h, ih]
      · simp [after?, h, Ne.symm h]

theorem after?_eq_none {start cs : List Char} (h : ¬ start <+: cs) : after? start cs = none := by
  cases hafter : after? start cs with
  | none => rfl
  | some rest => exact absurd ⟨rest, (after?_eq_some_iff.1 hafter).symm⟩ h

/-! ## One line -/

/-- A line as it is shown: without one carriage return at its end. -/
def withoutReturn (line : List Char) : List Char :=
  if line.getLast? = some '\r' then line.dropLast else line

theorem withoutReturn_isPrefix (line : List Char) : withoutReturn line <+: line := by
  unfold withoutReturn
  split
  · exact List.dropLast_prefix line
  · exact List.prefix_rfl

theorem withoutReturn_of_not_mem {line : List Char} (h : '\r' ∉ line) :
    withoutReturn line = line := by
  unfold withoutReturn
  rw [if_neg]
  exact fun hlast => h (List.mem_of_getLast? hlast)

theorem withoutReturn_cons (c : Char) {line : List Char} (h : line ≠ []) :
    withoutReturn (c :: line) = c :: withoutReturn line := by
  have hlast : (c :: line).getLast? = line.getLast? := by
    cases line with
    | nil => exact absurd rfl h
    | cons d line => exact List.getLast?_cons_cons
  unfold withoutReturn
  rw [hlast]
  split
  · exact List.dropLast_cons_of_ne_nil h
  · rfl

/-- A character that ends no line belongs to the first line of what follows. -/
theorem ofChars_cons {c : Char} {cs : List Char} (hline : c ≠ '\n')
    (hreturn : ¬ (c = '\r' ∧ cs.head? = some '\n')) :
    ofChars (c :: cs) =
      match ofChars cs with
      | [] => [[c]]
      | line :: lines => (c :: line) :: lines := by
  rw [ofChars.eq_def]
  split
  · next h => cases h
  · next h => exact absurd (List.cons.inj h).1 hline
  · next h =>
    obtain ⟨hc, hcs⟩ := List.cons.inj h
    exact absurd ⟨hc, by rw [hcs, List.head?_cons]⟩ hreturn
  · next h =>
    obtain ⟨rfl, rfl⟩ := List.cons.inj h
    rfl

/-- A complete line comes first, and what follows it does not matter for it. -/
theorem ofChars_line {line : List Char} (h : '\n' ∉ line) (rest : List Char) :
    ofChars (line ++ '\n' :: rest) = withoutReturn line :: ofChars rest := by
  induction line with
  | nil => rfl
  | cons c line ih =>
    have hc : c ≠ '\n' := fun heq => h (heq ▸ List.mem_cons_self)
    have hline : '\n' ∉ line := fun hmem => h (List.mem_cons_of_mem _ hmem)
    by_cases hnil : line = []
    · -- the last character of the line is dropped if it is a carriage return
      subst hnil
      by_cases hreturn : c = '\r'
      · subst hreturn
        rfl
      · have hkept : withoutReturn [c] = [c] :=
          withoutReturn_of_not_mem fun hmem => hreturn (List.mem_singleton.1 hmem).symm
        rw [List.singleton_append, ofChars_cons hc fun both => hreturn both.1, hkept]
        rfl
    · have hhead : (line ++ '\n' :: rest).head? ≠ some '\n' := by
        cases line with
        | nil => exact absurd rfl hnil
        | cons d line =>
          intro heq
          exact hline (Option.some.inj heq ▸ List.mem_cons_self)
      rw [List.cons_append, ofChars_cons hc fun both => hhead both.2, ih hline,
        withoutReturn_cons c hnil]

/-! ## Many lines -/

/-- Complete lines come first, each as it is shown. -/
theorem ofChars_lines {lines : List (List Char)} (h : ∀ line ∈ lines, '\n' ∉ line)
    (rest : List Char) :
    ofChars (lines.flatMap (· ++ ['\n']) ++ rest) = lines.map withoutReturn ++ ofChars rest := by
  induction lines with
  | nil => rfl
  | cons line lines ih =>
    have htail := ih fun l hl => h l (List.mem_cons_of_mem _ hl)
    rw [List.flatMap_cons, List.append_assoc, List.append_assoc, List.singleton_append,
      ofChars_line (h line List.mem_cons_self), htail, List.map_cons, List.cons_append]

/-- A text without a line feed is one line, if it is something. -/
theorem ofChars_of_not_mem {cs : List Char} (h : '\n' ∉ cs) :
    ofChars cs = if cs = [] then [] else [cs] := by
  induction cs with
  | nil => rfl
  | cons c cs ih =>
    have hc : c ≠ '\n' := fun heq => h (heq ▸ List.mem_cons_self)
    have hcs : '\n' ∉ cs := fun hmem => h (List.mem_cons_of_mem _ hmem)
    have hhead : cs.head? ≠ some '\n' := fun heq => hcs (List.mem_of_head? heq)
    rw [ofChars_cons hc fun both => hhead both.2, ih hcs]
    by_cases hnil : cs = []
    · rw [if_pos hnil, hnil]
      rfl
    · rw [if_neg hnil]
      rfl

/-- The parts of a text between its line feeds, as lines. A part that a line feed ends is shown
without a carriage return at its end; the last part is a line as it is, if it is something. -/
def ofParts : List (List Char) → List (List Char)
  | [] => []
  | [last] => if last = [] then [] else [last]
  | part :: parts => withoutReturn part :: ofParts parts

theorem ofParts_cons (part : List Char) {parts : List (List Char)} (h : parts ≠ []) :
    ofParts (part :: parts) = withoutReturn part :: ofParts parts := by
  cases parts with
  | nil => exact absurd rfl h
  | cons next parts => rfl

/-- **The lines of a text** are its parts between line feeds. -/
theorem ofChars_eq_ofParts (cs : List Char) : ofChars cs = ofParts (cs.splitOn '\n') := by
  by_cases h : '\n' ∈ cs
  · obtain ⟨line, rest, rfl, hline⟩ := List.eq_append_cons_of_mem h
    rw [ofChars_line hline, List.splitOn_append_cons_self_of_not_mem hline,
      ofParts_cons _ (List.splitOn_ne_nil _ _), ofChars_eq_ofParts rest]
  · rw [ofChars_of_not_mem h, List.splitOn_eq_singleton h]
    rfl
termination_by cs.length

/-! ## Searches -/

/-- **What a search finds** is the rest of the first line with the mark. -/
theorem firstAfter?_eq_some_iff {start text : String} {rest : List Char} :
    firstAfter? start text = some rest ↔
      ∃ earlier later,
        ofParts (text.toList.splitOn '\n') = earlier ++ (start.toList ++ rest) :: later ∧
          ∀ line ∈ earlier, ¬ start.toList <+: line := by
  have hnone : ∀ line, after? start.toList line = none ↔ ¬ start.toList <+: line := by
    intro line
    refine ⟨?_, after?_eq_none⟩
    rintro h ⟨rest, hrest⟩
    rw [after?_eq_some_iff.2 hrest.symm] at h
    cases h
  rw [firstAfter?, ofChars_eq_ofParts, List.findSome?_eq_some_iff]
  simp only [hnone, after?_eq_some_iff]
  constructor
  · rintro ⟨earlier, line, later, htext, rfl, hearlier⟩
    exact ⟨earlier, later, htext, hearlier⟩
  · rintro ⟨earlier, later, htext, hearlier⟩
    exact ⟨earlier, _, later, htext, rfl, hearlier⟩

/-- Complete lines without the mark are passed over. -/
theorem firstAfter?_lines {start : String} {before : List String} (after : String)
    (hbefore : ∀ earlier ∈ before, '\n' ∉ earlier.toList ∧ ¬ start.toList <+: earlier.toList) :
    firstAfter? start (String.join (before.map (· ++ "\n")) ++ after) =
      firstAfter? start after := by
  have htext : (String.join (before.map (· ++ "\n")) ++ after).toList =
      (before.map String.toList).flatMap (· ++ ['\n']) ++ after.toList := by
    simp [String.toList_join, List.flatMap_map]
  have hpassed : ((before.map String.toList).map withoutReturn).findSome? (after? start.toList) =
      none := by
    rw [List.findSome?_eq_none_iff]
    intro shown hshown
    simp only [List.map_map, List.mem_map, Function.comp_apply] at hshown
    obtain ⟨earlier, hmem, rfl⟩ := hshown
    -- a mark that is shown at the beginning of a line stands at its beginning
    exact after?_eq_none fun hmark =>
      (hbefore earlier hmem).2 (hmark.trans (withoutReturn_isPrefix _))
  have hlines : ∀ cs ∈ before.map String.toList, '\n' ∉ cs := by
    intro cs hcs
    obtain ⟨earlier, hmem, rfl⟩ := List.mem_map.1 hcs
    exact (hbefore earlier hmem).1
  rw [firstAfter?, htext, ofChars_lines hlines, List.findSome?_append, hpassed, Option.none_or]
  rfl

/-- A complete line that a text begins with is looked at, and what follows only if it has no mark. -/
theorem firstAfter?_complete {start line : String} (hline : '\n' ∉ line.toList) (after : String) :
    firstAfter? start (line ++ "\n" ++ after) =
      (after? start.toList (withoutReturn line.toList)).or (firstAfter? start after) := by
  have htext : (line ++ "\n" ++ after).toList = line.toList ++ '\n' :: after.toList := by simp
  rw [firstAfter?, htext, ofChars_line hline, List.findSome?_cons]
  cases after? start.toList (withoutReturn line.toList) <;> rfl

/-- **The first line with the mark decides.** Complete lines without the mark are passed over; the
complete line behind them is looked at, and what follows only if it has no mark either. -/
theorem firstAfter?_line {start : String} {before : List String} {line : String} (after : String)
    (hbefore : ∀ earlier ∈ before, '\n' ∉ earlier.toList ∧ ¬ start.toList <+: earlier.toList)
    (hline : '\n' ∉ line.toList) :
    firstAfter? start (String.join (before.map (· ++ "\n")) ++ (line ++ "\n") ++ after) =
      (after? start.toList (withoutReturn line.toList)).or (firstAfter? start after) := by
  rw [String.append_assoc, firstAfter?_lines _ hbefore, firstAfter?_complete hline]

/-- A line that a text begins with is looked at, whether it is complete or the whole text. -/
theorem firstAfter?_opening {start line ending : String} {value : List Char}
    (h : line.toList = start.toList ++ value) (hne : value ≠ []) (hfeed : '\n' ∉ line.toList)
    (hreturn : value.getLast? ≠ some '\r')
    (hending : ending = "" ∨ ∃ after, ending = "\n" ++ after) :
    firstAfter? start (line ++ ending) = some value := by
  have hafter : after? start.toList line.toList = some value := after?_eq_some_iff.2 h
  have hnil : line.toList ≠ [] := by simp [h, hne]
  have hshown : withoutReturn line.toList = line.toList := by
    rw [withoutReturn, h, List.getLast?_append, Option.or_of_isSome (List.getLast?_isSome.2 hne),
      if_neg hreturn]
  obtain rfl | ⟨after, rfl⟩ := hending
  · rw [firstAfter?, String.append_empty, ofChars_of_not_mem hfeed, if_neg hnil,
      List.findSome?_cons, hafter]
  · rw [← String.append_assoc, firstAfter?_complete hfeed, hshown, hafter, Option.some_or]

/-! ## Parts -/

theorem occursIn_iff {part cs : List Char} : occursIn part cs = true ↔ part <:+: cs := by
  induction cs with
  | nil => simp [occursIn]
  | cons c cs ih => simp [occursIn, List.infix_cons_iff, ih]

end Bootstrapper.Lines

namespace Bootstrapper

theorem mentions_iff {text part : String} :
    mentions text part = true ↔ part.toList <:+: text.toList :=
  Lines.occursIn_iff

end Bootstrapper
