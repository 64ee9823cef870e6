import Bootstrapper.Payload
import Bootstrapper.Text.Utf8.Laws

/-!
# What a host reads of its payload

The payload carries strings that end at the first zero byte, and a number of slots. A host reads
texts back from it. This module shows that it reads what was handed over:

* **`nul_mem_encode`**: only the character zero is written with a zero byte, so a text without it
  ends in memory where it ends.
* **`Payload.build_eq`**: memory is made text by text, but all that matters is the first text with
  that character; it is what a failure tells.
* **`Payload.Carries`** and **`Payload.Hands`**: what stands in a payload, and what a reader finds
  there. `Payload.Carries.hands` leads from one to the other.
* **`Payload.build_hands_over`**: a payload is built exactly from texts without that character, and
  then hands them over.
-/

namespace Bootstrapper

open Bytes (nul)

/-! ## Zero bytes -/

/-- A text is written with a zero byte exactly if it holds the character zero. -/
theorem nul_mem_encode {text : String} : nul ∈ Utf8.encode text ↔ '\x00' ∈ text.toList :=
  Utf8.ascii_mem_encode (by decide)

/-- Up to its first zero byte the memory of a text is the text. -/
theorem untilNul_terminated {text : String} (h : '\x00' ∉ text.toList) :
    untilNul (terminated text) = Utf8.encode text := by
  have hall : ∀ b ∈ Utf8.encode text, decide (b ≠ nul) = true := by
    intro b hb
    refine decide_eq_true ?_
    rintro rfl
    exact h (nul_mem_encode.1 hb)
  rw [untilNul, terminated, List.takeWhile_append_of_pos hall]
  simp

namespace Payload

/-- A slot with the memory of a text is read as that text. -/
theorem text?_terminated {text : String} (h : '\x00' ∉ text.toList) :
    text? (some (terminated text)) = some text := by
  rw [text?, Option.map_some, untilNul_terminated h, Utf8.decodeLossy_encode]

/-! ## Building -/

def holdsNul (text : String) : Bool :=
  text.toList.contains '\x00'

theorem holdsNul_iff {text : String} : holdsNul text = true ↔ '\x00' ∈ text.toList := by
  rw [holdsNul, List.contains_iff_mem]

/-- A text that cannot be handed over is told as it is: its bytes are those of a text. -/
theorem memoryOf_of_holdsNul {text : String} (h : holdsNul text = true) :
    memoryOf text = .error (.interiorNul text) := by
  have hmem : nul ∈ Utf8.encode text := nul_mem_encode.2 (holdsNul_iff.1 h)
  unfold memoryOf
  simp only
  rw [if_pos (List.contains_iff_mem.2 hmem), Utf8.decodeLossy_encode]

theorem memoryOf_of_not_holdsNul {text : String} (h : ¬ holdsNul text = true) :
    memoryOf text = .ok (terminated text) := by
  have hmem : nul ∉ Utf8.encode text := fun hmem => h (holdsNul_iff.2 (nul_mem_encode.1 hmem))
  unfold memoryOf
  simp only
  rw [if_neg fun hcontains => hmem (List.contains_iff_mem.1 hcontains)]

/-- Memory is made for all texts, or the first one that is refused is told. -/
theorem mapM_memoryOf (texts : List String) :
    texts.mapM memoryOf =
      match texts.find? holdsNul with
      | some text => .error (.interiorNul text)
      | none => .ok (texts.map terminated) := by
  induction texts with
  | nil => rfl
  | cons text texts ih =>
    rw [List.mapM_cons]
    by_cases h : holdsNul text = true
    · rw [memoryOf_of_holdsNul h, List.find?_cons_of_pos h]
      rfl
    · rw [memoryOf_of_not_holdsNul h, List.find?_cons_of_neg h, ih]
      cases texts.find? holdsNul <;> rfl

/-- The stages of a build taken together: the first text that is refused, in the order arguments,
base, runtime directory, decides. -/
theorem build_eq (base runtime : String) (arguments : List String) :
    build base runtime arguments =
      match (arguments ++ [base, runtime]).find? holdsNul with
      | some text => .error (.interiorNul text)
      | none => .ok (ofTexts base runtime arguments) := by
  rw [build, mapM_memoryOf, List.find?_append]
  cases arguments.find? holdsNul with
  | some text => rfl
  | none =>
    rw [Option.none_or]
    by_cases hbase : holdsNul base = true
    · rw [memoryOf_of_holdsNul hbase, List.find?_cons_of_pos hbase]
      rfl
    by_cases hruntime : holdsNul runtime = true
    · rw [memoryOf_of_not_holdsNul hbase, memoryOf_of_holdsNul hruntime,
        List.find?_cons_of_neg hbase, List.find?_cons_of_pos hruntime]
      rfl
    · rw [memoryOf_of_not_holdsNul hbase, memoryOf_of_not_holdsNul hruntime,
        List.find?_cons_of_neg hbase, List.find?_cons_of_neg hruntime]
      rfl

theorem find?_holdsNul_eq_none {texts : List String} :
    texts.find? holdsNul = none ↔ ∀ text ∈ texts, '\x00' ∉ text.toList := by
  rw [List.find?_eq_none]
  simp only [holdsNul_iff]

/-- A payload is built exactly if no text holds the character zero. -/
theorem build_eq_ok_iff {base runtime : String} {arguments : List String} {payload : Payload} :
    build base runtime arguments = .ok payload ↔
      (∀ text ∈ arguments ++ [base, runtime], '\x00' ∉ text.toList)
        ∧ payload = ofTexts base runtime arguments := by
  rw [build_eq, ← find?_holdsNul_eq_none]
  cases (arguments ++ [base, runtime]).find? holdsNul with
  | some text => simp
  | none => simp [eq_comm]

/-! ## Reading -/

/-- What stands in a payload: the memory of the base, of the runtime directory and of each
argument, as many as are counted, and an empty slot behind them. -/
structure Carries (payload : Payload) (base runtime : String) (arguments : List String) : Prop where
  base : payload.base = some (terminated base)
  runtime : payload.runtime = some (terminated runtime)
  count : payload.count.toInt = arguments.length
  slots : payload.slots = (arguments.map terminated).map some ++ [none]

/-- What a reader finds in a payload: the texts of the base, the runtime directory and the
arguments, and the exit code. -/
structure Hands (payload : Payload) (base runtime : String) (arguments : List String)
    (exitCode : Int32) : Prop where
  base : text? payload.base = some base
  runtime : text? payload.runtime = some runtime
  arguments : payload.arguments = arguments
  exitCode : payload.exitCode = exitCode

/-- The slots of a payload, read as texts, are its arguments. -/
theorem filterMap_text? {arguments : List String} (h : ∀ text ∈ arguments, '\x00' ∉ text.toList) :
    ((arguments.map terminated).map some).filterMap text? = arguments := by
  induction arguments with
  | nil => rfl
  | cons argument arguments ih =>
    rw [List.map_cons, List.map_cons,
      List.filterMap_cons_some (text?_terminated (h argument List.mem_cons_self)),
      ih fun text ht => h text (List.mem_cons_of_mem _ ht)]

/-- What stands in a payload is found there, if it ends where it ends. -/
theorem Carries.hands {payload : Payload} {base runtime : String} {arguments : List String}
    (h : payload.Carries base runtime arguments)
    (hnul : ∀ text ∈ arguments ++ [base, runtime], '\x00' ∉ text.toList) :
    payload.Hands base runtime arguments payload.exitCode where
  base := by
    rw [h.base]
    exact text?_terminated (hnul base (by simp))
  runtime := by
    rw [h.runtime]
    exact text?_terminated (hnul runtime (by simp))
  arguments := by
    have hcount : payload.count.toInt.toNat = arguments.length := by
      rw [h.count, Int.toNat_natCast]
    have htake : payload.slots.take arguments.length = (arguments.map terminated).map some := by
      rw [h.slots]
      exact List.take_left' (by simp)
    rw [Payload.arguments, hcount, htake]
    exact filterMap_text? fun text ht => hnul text (List.mem_append_left _ ht)
  exitCode := rfl

/-- Behind the arguments of a payload stands the empty slot. -/
theorem Carries.slot_count {payload : Payload} {base runtime : String} {arguments : List String}
    (h : payload.Carries base runtime arguments) : payload.slots[arguments.length]? = some none := by
  rw [h.slots, List.getElem?_append_right (by simp)]
  simp

/-- The payload of texts carries them, as long as the slots can be counted: the count is signed and
of 32 bits. -/
theorem carries_ofTexts (base runtime : String) {arguments : List String}
    (hcount : arguments.length < 0x80000000) :
    (ofTexts base runtime arguments).Carries base runtime arguments where
  base := rfl
  runtime := rfl
  count := by
    rw [ofTexts, ofMemory, List.length_map, Int32.toInt_ofInt_of_le (by omega) (by omega)]
  slots := rfl

/-- What is handed over is found. -/
theorem hands_ofTexts {base runtime : String} {arguments : List String}
    (h : ∀ text ∈ arguments ++ [base, runtime], '\x00' ∉ text.toList)
    (hcount : arguments.length < 0x80000000) :
    Hands (ofTexts base runtime arguments) base runtime arguments 0 :=
  (carries_ofTexts base runtime hcount).hands h

/-! ## The main statement -/

/-- **What is handed over is found, or told.** Of countable arguments and texts without the
character zero a payload is built, in which a reader finds them, with an empty slot behind the
arguments. Otherwise the first text with that character, in the order arguments, base, runtime
directory, is told as it is. -/
theorem build_hands_over (base runtime : String) (arguments : List String)
    (hcount : arguments.length < 0x80000000) :
    ((∀ text ∈ arguments ++ [base, runtime], '\x00' ∉ text.toList) →
      ∃ payload, build base runtime arguments = .ok payload ∧
        payload.Hands base runtime arguments 0 ∧
        payload.count.toInt = arguments.length ∧
        payload.slots[arguments.length]? = some none) ∧
    ((∃ text ∈ arguments ++ [base, runtime], '\x00' ∈ text.toList) →
      ∃ before text after, arguments ++ [base, runtime] = before ++ text :: after ∧
        (∀ earlier ∈ before, '\x00' ∉ earlier.toList) ∧ '\x00' ∈ text.toList ∧
        build base runtime arguments = .error (.interiorNul text)) := by
  refine ⟨fun hnul => ?_, fun hsome => ?_⟩
  · have hcarries := carries_ofTexts base runtime hcount
    exact ⟨_, build_eq_ok_iff.2 ⟨hnul, rfl⟩, hcarries.hands hnul, hcarries.count,
      hcarries.slot_count⟩
  · -- the search finds a text, and nothing before it
    obtain ⟨text, hfind⟩ : ∃ text, (arguments ++ [base, runtime]).find? holdsNul = some text := by
      obtain ⟨text, hmem, hnul⟩ := hsome
      exact Option.isSome_iff_exists.1 (List.find?_isSome.2 ⟨text, hmem, holdsNul_iff.2 hnul⟩)
    obtain ⟨hnul, before, after, htexts, hbefore⟩ := List.find?_eq_some_iff_append.1 hfind
    refine ⟨before, text, after, htexts, fun earlier hmem => ?_, holdsNul_iff.1 hnul, ?_⟩
    · have hfree := hbefore earlier hmem
      rw [Bool.not_eq_true'] at hfree
      exact fun h => absurd (holdsNul_iff.2 h) (by simp [hfree])
    · rw [build_eq, hfind]

/-- Nothing and characters of several bytes are found; of three texts that cannot be handed over the
earlier argument is told, though the base comes first in the payload. -/
theorem build_hands_over_wide :
    (∃ payload, build "é" "" ["", "日本\n"] = .ok payload ∧
      payload.Hands "é" "" ["", "日本\n"] 0 ∧ payload.slots[2]? = some none) ∧
    build "\x00" "/opt/" ["a", "b\x00é", "\x00"] = .error (.interiorNul "b\x00é") := by
  refine ⟨?_, ?_⟩
  · obtain ⟨payload, hbuild, hhands, _, hslot⟩ :=
      (build_hands_over "é" "" ["", "日本\n"] (by decide)).1 (by decide +kernel)
    exact ⟨payload, hbuild, hhands, hslot⟩
  · obtain ⟨before, text, after, htexts, hbefore, hnul, hbuild⟩ :=
      (build_hands_over "\x00" "/opt/" ["a", "b\x00é", "\x00"] (by decide)).2
        ⟨"\x00", by decide, by decide +kernel⟩
    -- the first text is free of the character, the second one is not
    rcases before with _ | ⟨first, before⟩
    · obtain rfl : "a" = text := (List.cons.inj htexts).1
      exact absurd hnul (by decide +kernel)
    rcases before with _ | ⟨second, before⟩
    · obtain rfl : "b\x00é" = text := (List.cons.inj (List.cons.inj htexts).2).1
      exact hbuild
    · obtain rfl : "b\x00é" = second := (List.cons.inj (List.cons.inj htexts).2).1
      exact absurd (by decide +kernel) (hbefore "b\x00é" (by simp))

end Payload

end Bootstrapper
