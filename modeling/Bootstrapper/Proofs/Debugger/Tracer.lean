import Bootstrapper.Debugger.Tracer
import Bootstrapper.Proofs.Text.Lines
import Bootstrapper.Proofs.Text.Numeral

/-!
# What a status text tells

A status text names the tracing process on a line with a mark. Which text tells which process is
said here without reading it (`Tells`), and the reader is shown to agree:

* **`number?_eq_some_iff`**: what stands behind the mark is a number with blanks around it.
* **`tracer?_eq_some_iff`**: a process is found exactly if the text tells it.
* **`first_marked_line_decides`**: only the first line with the mark counts, also when it tells
  none. Complete lines before it do not matter, and nothing that follows it does.
-/

namespace Bootstrapper.Debugger

open Numeral (Unsigned)

/-! ## The number on a line -/

theorem isBlank_of_isDigit {c : Char} (h : c.isDigit = true) : isBlank c = false := by
  have hrange : 0x30 ≤ c.toNat ∧ c.toNat ≤ 0x39 := Char.isDigit_iff_toNat.1 h
  simp [isBlank]
  omega

theorem isBlank_of_unsigned {cs : List Char} {n : Nat} (h : Unsigned cs n) :
    cs ≠ [] ∧ ∀ c ∈ cs, isBlank c = false := by
  obtain ⟨digits, rfl | rfl, hdigits⟩ := h
  · exact ⟨hdigits.ne_nil, fun c hc => isBlank_of_isDigit (hdigits.isDigit c hc)⟩
  · refine ⟨List.cons_ne_nil _ _, List.forall_mem_cons.2 ⟨by decide, fun c hc => ?_⟩⟩
    exact isBlank_of_isDigit (hdigits.isDigit c hc)

/-- A number with blanks around it. -/
def Padded (cs : List Char) (n : Nat) : Prop :=
  ∃ before number after, cs = before ++ number ++ after ∧ (∀ c ∈ before, isBlank c = true) ∧
    (∀ c ∈ after, isBlank c = true) ∧ Unsigned number n

/-- **What is read behind the mark** is a number of 32 bits with blanks around it. -/
theorem number?_eq_some_iff {cs : List Char} {word : UInt32} :
    Numeral.word? 10 (trimBlanks cs) = some word ↔ Padded cs word.toNat := by
  rw [Numeral.word?_eq_some_iff]
  constructor
  · intro h
    obtain ⟨before, after, hcs, hbefore, hafter⟩ := exists_eq_trimBlanks cs
    exact ⟨before, trimBlanks cs, after, hcs, hbefore, hafter, h⟩
  · rintro ⟨before, number, after, rfl, hbefore, hafter, h⟩
    obtain ⟨hne, hnumber⟩ := isBlank_of_unsigned h
    rwa [trimBlanks_append hbefore hafter hne hnumber]

/-! ## The line that decides -/

/-- A status text tells a process: of its lines, which are the parts between line feeds, the first
one that begins with the mark has a number of 32 bits behind it. -/
def Tells (status : String) (n : Nat) : Prop :=
  ∃ earlier value later,
    Lines.ofParts (status.toList.splitOn '\n') =
        earlier ++ ("TracerPid:".toList ++ value) :: later ∧
      (∀ line ∈ earlier, ¬ "TracerPid:".toList <+: line) ∧ Padded value n ∧ n < 0x100000000

/-- **A process is found exactly if the text tells it.** -/
theorem tracer?_eq_some_iff {status : String} {word : UInt32} :
    tracer? status = some word ↔ Tells status word.toNat := by
  rw [tracer?, Option.bind_eq_some_iff]
  simp only [number?_eq_some_iff, Lines.firstAfter?_eq_some_iff]
  constructor
  · rintro ⟨value, ⟨earlier, later, hlines, hearlier⟩, hvalue⟩
    exact ⟨earlier, value, later, hlines, hearlier, hvalue, word.toNat_lt⟩
  · rintro ⟨earlier, value, later, hlines, hearlier, hvalue, -⟩
    exact ⟨value, ⟨earlier, later, hlines, hearlier⟩, hvalue⟩

theorem toNat_tracer?_eq_some_iff {status : String} {n : Nat} :
    (tracer? status).map UInt32.toNat = some n ↔ Tells status n := by
  rw [Option.map_eq_some_iff]
  constructor
  · rintro ⟨word, hword, rfl⟩
    exact tracer?_eq_some_iff.1 hword
  · rintro ⟨earlier, value, later, hlines, hearlier, hvalue, hlt⟩
    have hn : (UInt32.ofNat n).toNat = n := UInt32.toNat_ofNat_of_lt' hlt
    refine ⟨UInt32.ofNat n, tracer?_eq_some_iff.2 ?_, hn⟩
    rw [hn]
    exact ⟨earlier, value, later, hlines, hearlier, hvalue, hlt⟩

theorem tracer?_eq_none_iff {status : String} : tracer? status = none ↔ ∀ n, ¬ Tells status n := by
  constructor
  · intro h n hn
    rw [← toNat_tracer?_eq_some_iff, h] at hn
    cases hn
  · intro h
    cases hword : tracer? status with
    | none => rfl
    | some word => exact absurd (tracer?_eq_some_iff.1 hword) (h _)

/-! ## Lines that do not matter -/

/-- The text of complete lines. -/
def complete (lines : List String) : String :=
  String.join (lines.map (· ++ "\n"))

/-- Lines that do not begin with the mark. -/
def Unmarked (lines : List String) : Prop :=
  ∀ line ∈ lines, '\n' ∉ line.toList ∧ ¬ "TracerPid:".toList <+: line.toList

instance : DecidablePred Unmarked := fun lines =>
  inferInstanceAs (Decidable (∀ line ∈ lines, _))

section

variable {before : List String} {line : String} {value : List Char}

theorem tracer?_complete (h : Unmarked before) (rest : String) :
    tracer? (complete before ++ rest) = tracer? rest := by
  rw [tracer?, tracer?, complete, tracerMark, Lines.firstAfter?_lines rest h]

/-- A line with the mark shows it, whatever stands at its end. -/
theorem mark_isPrefix_withoutReturn (h : "TracerPid:".toList <+: line.toList) :
    "TracerPid:".toList <+: Lines.withoutReturn line.toList := by
  obtain ⟨value, hvalue⟩ := h
  obtain rfl | ⟨kept, last, rfl⟩ := List.eq_nil_or_concat' value
  · rw [← hvalue]
    decide
  · -- what is not shown stands behind the mark
    rw [← hvalue, ← List.append_assoc, Lines.withoutReturn, List.dropLast_concat]
    split_ifs
    · exact List.prefix_append _ _
    · rw [List.append_assoc]
      exact List.prefix_append _ _

/-- What follows a complete line with the mark does not matter. -/
theorem tracer?_line (hline : '\n' ∉ line.toList) (hmark : "TracerPid:".toList <+: line.toList)
    (after : String) : tracer? (line ++ "\n" ++ after) = tracer? (line ++ "\n") := by
  obtain ⟨value, hvalue⟩ := mark_isPrefix_withoutReturn hmark
  have hdecides : ∀ after, Lines.firstAfter? "TracerPid:" (line ++ "\n" ++ after) = some value := by
    intro after
    rw [Lines.firstAfter?_complete hline, Lines.after?_eq_some_iff.2 hvalue.symm, Option.some_or]
  have hempty : Lines.firstAfter? "TracerPid:" (line ++ "\n") = some value := by
    simpa using hdecides ""
  rw [tracer?, tracer?, tracerMark, hdecides, hempty]

/-- A number in decimal behind the mark and blanks is told, on a complete line or at the end. -/
theorem tracer?_written {blanks : String} {n : Nat} (hn : n < 0x100000000)
    (hblanks : ∀ c ∈ blanks.toList, isBlank c = true ∧ c ≠ '\n') {ending : String}
    (hending : ending = "" ∨ ∃ after, ending = "\n" ++ after) :
    (tracer? ("TracerPid:" ++ blanks ++ toString n ++ ending)).map UInt32.toNat = some n := by
  have hdigits := Numeral.decimal_toDigits n
  have hline : ("TracerPid:" ++ blanks ++ toString n).toList =
      "TracerPid:".toList ++ (blanks.toList ++ Nat.toDigits 10 n) := by
    simp
  have hne : blanks.toList ++ Nat.toDigits 10 n ≠ [] := by simp [hdigits.ne_nil]
  have hfeed : '\n' ∉ ("TracerPid:" ++ blanks ++ toString n).toList := by
    rw [hline, List.mem_append, List.mem_append, not_or, not_or]
    exact ⟨by decide, fun hmem => (hblanks _ hmem).2 rfl, hdigits.not_mem rfl⟩
  have hreturn : (blanks.toList ++ Nat.toDigits 10 n).getLast? ≠ some '\r' := by
    -- the last character is a digit
    rw [List.getLast?_append_of_ne_nil _ hdigits.ne_nil]
    exact fun hlast => hdigits.not_mem rfl (List.mem_of_getLast? hlast)
  have hfirst := Lines.firstAfter?_opening hline hne hfeed hreturn hending
  have hpadded : Padded (blanks.toList ++ Nat.toDigits 10 n) n :=
    ⟨blanks.toList, _, [], by simp, fun c hc => (hblanks c hc).1, by simp, _, .inl rfl, hdigits⟩
  have hword : (UInt32.ofNat n).toNat = n := UInt32.toNat_ofNat_of_lt' hn
  have hnumber : Numeral.word? 10 (trimBlanks (blanks.toList ++ Nat.toDigits 10 n)) =
      some (UInt32.ofNat n) := number?_eq_some_iff.2 (by rwa [hword])
  rw [tracer?, tracerMark, hfirst, Option.bind_some, hnumber, Option.map_some, hword]

end

/-! ## The main statement -/

/-- **The first line with the mark decides.** A process is found exactly if the text tells it, and
none is found exactly if it tells none. Other complete lines without the mark may stand before the
line that decides, and anything behind it. Every number of 32 bits is told by its digits. -/
theorem first_marked_line_decides :
    (∀ status n, (tracer? status).map UInt32.toNat = some n ↔ Tells status n) ∧
      (∀ status, tracer? status = none ↔ ∀ n, ¬ Tells status n) ∧
      (∀ before others rest, Unmarked before → Unmarked others →
        tracer? (complete before ++ rest) = tracer? (complete others ++ rest)) ∧
      (∀ before line after other, Unmarked before → '\n' ∉ line.toList →
        "TracerPid:".toList <+: line.toList →
        tracer? (complete before ++ (line ++ "\n" ++ after)) =
          tracer? (complete before ++ (line ++ "\n" ++ other))) ∧
      ∀ before blanks n ending, Unmarked before →
        (∀ c ∈ blanks.toList, isBlank c = true ∧ c ≠ '\n') → n < 0x100000000 →
        (ending = "" ∨ ∃ after, ending = "\n" ++ after) →
        (tracer? (complete before ++ ("TracerPid:" ++ blanks ++ toString n ++ ending))).map
          UInt32.toNat = some n := by
  refine ⟨fun status n => toNat_tracer?_eq_some_iff, fun status => tracer?_eq_none_iff, ?_, ?_, ?_⟩
  · intro before others rest hbefore hothers
    rw [tracer?_complete hbefore, tracer?_complete hothers]
  · intro before line after other hbefore hline hmark
    rw [tracer?_complete hbefore, tracer?_complete hbefore, tracer?_line hline hmark,
      tracer?_line hline hmark]
  · intro before blanks n ending hbefore hblanks hn hending
    rw [tracer?_complete hbefore]
    exact tracer?_written hn hblanks hending

/-- A line that tells a negative number decides that there is none, though a good line follows; the
largest number is found behind blanks of several kinds and a line with the mark inside. -/
theorem first_marked_line_decides_negative :
    tracer? "Name:\tdnx\nTracerPid:\t-1\nTracerPid:\t7\n" = none ∧
      (tracer? "no TracerPid:\t7\r\nTracerPid:\t\r\u00a04294967295").map UInt32.toNat =
        some 4294967295 := by
  obtain ⟨-, -, -, hline, hwritten⟩ := first_marked_line_decides
  have hnegative := hline ["Name:\tdnx"] "TracerPid:\t-1" "TracerPid:\t7\n" "" (by decide +kernel)
    (by decide +kernel) (by decide +kernel)
  have hblanks : ∀ c ∈ "\t\r\u00a0".toList, isBlank c = true ∧ c ≠ '\n' := by
    simp [isBlank]
  have hlargest := hwritten ["no TracerPid:\t7\r"] "\t\r\u00a0" 4294967295 "" (by decide +kernel)
    hblanks (by decide) (.inl rfl)
  exact ⟨hnegative.trans (by decide +kernel), hlargest⟩

end Bootstrapper.Debugger
