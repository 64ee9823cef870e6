import Bootstrapper.Json.Parser
import Bootstrapper.Json.Printer

/-!
# Reading what was printed

A value without numbers is read back from its printed form, whatever follows it. The readers take
fuel and a depth, so this is stated for every fuel from twice the printed length on, and for the
values that do not nest deeper than is allowed.

* **`Escaping`**: the two ways in which a character is printed. That its escape is read as that
  character in one step (`readChars_escape`) and holds no control character follows; everything
  about strings is then an induction on the text.
* **`Readable`**: values without numbers, nested at most so deep, the names of each object in order.
* **`ReadBack`**: what is shown of every readable value by induction, one case for each constructor;
  `readElements_printElements` and `readFields_printFields` do the part between brackets.
* **`parse_print`**: the whole text of a readable value is read as the value.
* **`visible_print`**: no control character stands in it, so it never spans lines.

Numbers are left out: a double is made by one multiplication and need not be the one that was
printed.
-/

namespace Bootstrapper.Json

open Text (hexadecimal)

/-! ## Control characters -/

/-- No control character is among these. -/
def Visible (cs : List Char) : Prop :=
  ∀ c ∈ cs, 0x20 ≤ c.toNat

-- the characters of the list are gone through, not all that there are
instance (cs : List Char) : Decidable (Visible cs) :=
  List.decidableBAll (fun c : Char => 0x20 ≤ c.toNat) cs

theorem visible_cons {c : Char} {cs : List Char} :
    Visible (c :: cs) ↔ 0x20 ≤ c.toNat ∧ Visible cs :=
  List.forall_mem_cons

theorem visible_append {a b : List Char} : Visible (a ++ b) ↔ Visible a ∧ Visible b :=
  List.forall_mem_append

/-! ## Characters -/

/-- How a character is printed in a string: as it is, or as a backslash and what the reader of
escapes takes for it. -/
inductive Escaping (c : Char) : List Char → Prop
  | plain (hquote : c ≠ '"') (hslash : c ≠ '\\') (hvisible : 0x20 ≤ c.toNat) : Escaping c [c]
  | escaped {tail : List Char} (hvisible : Visible tail)
      (hread : ∀ cs, readEscape (tail ++ cs) = .ok (c, cs)) : Escaping c ('\\' :: tail)

/-- The four digits of a control character are read as its number. -/
theorem control_digits : ∀ n, n < 0x20 →
    (if n < 0x10 then ['0', '0', '0'] else ['0', '0']) ++ hexadecimal n =
        ['0', '0', Nat.digitChar (n / 16), Nat.digitChar (n % 16)] ∧
      Visible ['0', '0', Nat.digitChar (n / 16), Nat.digitChar (n % 16)] ∧
      Numeral.natural? 16 ['0', '0', Nat.digitChar (n / 16), Nat.digitChar (n % 16)] = some n := by
  decide +kernel

theorem escaping_control {c : Char} (h : c.toNat < 0x20) :
    Escaping c ('\\' :: 'u' :: ((if c.toNat < 0x10 then ['0', '0', '0'] else ['0', '0'])
      ++ hexadecimal c.toNat)) := by
  obtain ⟨hdigits, hvisible, hvalue⟩ := control_digits c.toNat h
  rw [hdigits]
  refine .escaped (visible_cons.2 ⟨by decide, hvisible⟩) fun cs => ?_
  have hunit : readUnit ('0' :: '0' :: Nat.digitChar (c.toNat / 16)
      :: Nat.digitChar (c.toNat % 16) :: cs) = .ok (c.toNat, cs) := by
    simp only [readUnit, hvalue, Option.map_some]
  simp only [List.cons_append, List.nil_append, readEscape, hunit]
  -- a control character is no half of a surrogate pair
  rw [if_neg (by omega), if_neg (by omega), Char.ofNat_toNat]

theorem escaping_escape (c : Char) : Escaping c (escape c) := by
  unfold escape
  by_cases hquote : c = '"'
  · rw [if_pos hquote, hquote]; exact .escaped (by decide) fun _ => rfl
  rw [if_neg hquote]
  by_cases hslash : c = '\\'
  · rw [if_pos hslash, hslash]; exact .escaped (by decide) fun _ => rfl
  rw [if_neg hslash]
  by_cases hback : c = '\x08'
  · rw [if_pos hback, hback]; exact .escaped (by decide) fun _ => rfl
  rw [if_neg hback]
  by_cases hfeed : c = '\x0c'
  · rw [if_pos hfeed, hfeed]; exact .escaped (by decide) fun _ => rfl
  rw [if_neg hfeed]
  by_cases hline : c = '\n'
  · rw [if_pos hline, hline]; exact .escaped (by decide) fun _ => rfl
  rw [if_neg hline]
  by_cases hreturn : c = '\r'
  · rw [if_pos hreturn, hreturn]; exact .escaped (by decide) fun _ => rfl
  rw [if_neg hreturn]
  by_cases htab : c = '\t'
  · rw [if_pos htab, htab]; exact .escaped (by decide) fun _ => rfl
  rw [if_neg htab]
  by_cases hlow : c.toNat < 0x10
  · have hcontrol := escaping_control (c := c) (by omega)
    rwa [if_pos hlow] at hcontrol ⊢
  rw [if_neg hlow]
  by_cases hcontrol : c.toNat < 0x20
  · have hescaping := escaping_control hcontrol
    rw [if_neg hlow] at hescaping
    rwa [if_pos hcontrol]
  · rw [if_neg hcontrol]
    exact .plain hquote hslash (by omega)

/-- A character's escape is read as that character. -/
theorem readChars_escape (fuel : Nat) (c : Char) (cs : List Char) :
    readChars (fuel + 1) (escape c ++ cs) =
      (readChars fuel cs).map fun (chars, rest) => (c :: chars, rest) := by
  have hescaping := escaping_escape c
  generalize escape c = printed at hescaping ⊢
  cases hescaping with
  | plain hquote hslash hvisible =>
    rw [List.singleton_append, readChars, if_neg hquote, if_neg hslash, if_neg (by omega)]
  | escaped _ hread =>
    rw [List.cons_append, readChars, if_neg (by decide), if_pos rfl, hread]

theorem visible_escape (c : Char) : Visible (escape c) := by
  have hescaping := escaping_escape c
  generalize escape c = printed at hescaping ⊢
  cases hescaping with
  | plain _ _ hvisible => exact visible_cons.2 ⟨hvisible, by decide⟩
  | escaped hvisible _ => exact visible_cons.2 ⟨by decide, hvisible⟩

theorem escape_length_pos (c : Char) : 0 < (escape c).length := by
  have hescaping := escaping_escape c
  generalize escape c = printed at hescaping ⊢
  cases hescaping <;> exact Nat.succ_pos _

/-! ## Strings -/

/-- The characters of a string are read up to the closing quote. -/
theorem readChars_flatMap_escape (cs rest : List Char) :
    ∀ fuel, (cs.flatMap escape).length < fuel →
      readChars fuel (cs.flatMap escape ++ '"' :: rest) = .ok (cs, rest) := by
  induction cs with
  | nil =>
    intro fuel hfuel
    obtain ⟨fuel, rfl⟩ := Nat.exists_eq_add_one.2 (Nat.zero_lt_of_lt hfuel)
    rw [List.flatMap_nil, List.nil_append, readChars, if_pos rfl]
  | cons c cs ih =>
    intro fuel hfuel
    rw [List.flatMap_cons, List.length_append] at hfuel
    have hpos := escape_length_pos c
    obtain ⟨fuel, rfl⟩ := Nat.exists_eq_add_one.2 (show 0 < fuel by omega)
    rw [List.flatMap_cons, List.append_assoc, readChars_escape, ih fuel (by omega)]
    rfl

theorem printString_append (text : String) (rest : List Char) :
    printString text ++ rest = '"' :: (text.toList.flatMap escape ++ '"' :: rest) := by
  simp [printString]

theorem readString_print (text : String) (rest : List Char) :
    readString (text.toList.flatMap escape ++ '"' :: rest) = .ok (text, rest) := by
  have hfuel : (text.toList.flatMap escape).length <
      (text.toList.flatMap escape ++ '"' :: rest).length + 1 := by
    rw [List.length_append]
    omega
  rw [readString, readChars_flatMap_escape _ _ _ hfuel]
  simp [Except.map]

/-! ## Values -/

/-- A value without numbers, nested at most so deep, with the names of each object in order. -/
inductive Readable : Nat → Json → Prop
  | null (depth : Nat) : Readable depth .null
  | bool (depth : Nat) (value : Bool) : Readable depth (.bool value)
  | string (depth : Nat) (value : String) : Readable depth (.string value)
  | array {depth : Nat} {elements : List Json} (h : ∀ element ∈ elements, Readable depth element) :
      Readable (depth + 1) (.array elements)
  | object {depth : Nat} {fields : List (String × Json)}
      (h : ∀ field ∈ fields, Readable depth field.2)
      (hsorted : fields.Pairwise fun a b => a.1 < b.1) : Readable (depth + 1) (.object fields)

/-- What is read back of a value: its printed form begins like a value, and is read as the value
whatever follows. -/
structure ReadBack (depth : Nat) (value : Json) : Prop where
  head : ∃ c cs, print value = c :: cs ∧ isGap c = false ∧ c ≠ ']'
  back : ∀ fuel rest, 2 * (print value).length ≤ fuel →
    readValue fuel depth (print value ++ rest) = .ok (value, rest)

theorem skipGap_cons {c : Char} (h : isGap c = false) (cs : List Char) :
    skipGap (c :: cs) = c :: cs := by
  rw [skipGap, List.dropWhile_cons_of_neg (by simp [h])]

/-! ### Elements -/

/-- What is printed behind an element: the closing bracket, or a comma and the elements left. -/
def printElementsLeft : List Json → List Char
  | [] => [']']
  | elements => ',' :: printElements elements

theorem printElements_cons (element : Json) (elements : List Json) :
    printElements (element :: elements) = print element ++ printElementsLeft elements := by
  cases elements <;> simp [printElements, printElementsLeft]

theorem nextElement_closed (isFirst : Bool) (rest : List Char) :
    nextElement isFirst (']' :: rest) = .ok (.closed rest) := by
  rw [nextElement, skipGap_cons (by decide)]
  rfl

theorem nextElement_first {c : Char} {cs : List Char} (hgap : isGap c = false) (hclose : c ≠ ']') :
    nextElement true (c :: cs) = .ok (.part (c :: cs)) := by
  rw [nextElement, skipGap_cons hgap]
  split
  · next h => cases h
  · next h => exact absurd (List.cons.inj h).1 hclose
  · next h => simp [h]

theorem nextElement_comma {c : Char} {cs : List Char} (hgap : isGap c = false) (hclose : c ≠ ']') :
    nextElement false (',' :: c :: cs) = .ok (.part (c :: cs)) := by
  have hcomma : skipGap (',' :: c :: cs) = ',' :: c :: cs := skipGap_cons (by decide) _
  have hnext : skipGap (c :: cs) = c :: cs := skipGap_cons hgap _
  rw [nextElement, hcomma]
  split
  · next h => cases h
  · next h => exact absurd (List.cons.inj h).1 (by decide)
  · next h =>
    obtain ⟨rfl, rfl⟩ := List.cons.inj h
    rw [if_neg Bool.false_ne_true, if_pos rfl, hnext]
    split
    · next h => cases h
    · next h => exact absurd (List.cons.inj h).1 hclose
    · rfl

/-- One element is read, given how the elements behind it are read. -/
theorem readElements_element {fuel depth : Nat} {isFirst : Bool} {cs : List Char} {element : Json}
    {elements : List Json} {left rest : List Char}
    (hnext : nextElement isFirst cs = .ok (.part (print element ++ left)))
    (helement : readValue fuel depth (print element ++ left) = .ok (element, left))
    (hleft : readElements fuel depth false left = .ok (elements, rest)) :
    readElements (fuel + 1) depth isFirst cs = .ok (element :: elements, rest) := by
  rw [readElements, hnext]
  simp only [helement, hleft]
  rfl

/-- The elements left are read up to the closing bracket. -/
theorem readElements_left {depth : Nat} (elements : List Json) (rest : List Char)
    (h : ∀ element ∈ elements, ReadBack depth element) :
    ∀ fuel, 2 * (printElementsLeft elements).length ≤ fuel →
      readElements fuel depth false (printElementsLeft elements ++ rest) = .ok (elements, rest) := by
  induction elements with
  | nil =>
    intro fuel hfuel
    rw [printElementsLeft, List.length_singleton] at hfuel
    obtain ⟨fuel, rfl⟩ := Nat.exists_eq_add_one.2 (show 0 < fuel by omega)
    rw [printElementsLeft, List.singleton_append, readElements, nextElement_closed]
  | cons element elements ih =>
    intro fuel hfuel
    have helement : ReadBack depth element := h element List.mem_cons_self
    have ih := ih fun e he => h e (List.mem_cons_of_mem _ he)
    obtain ⟨c, cs, hprint, hgap, hclose⟩ := helement.head
    have hleft : printElementsLeft (element :: elements) =
        ',' :: (print element ++ printElementsLeft elements) := by
      rw [printElementsLeft, printElements_cons]
      exact List.cons_ne_nil _ _
    rw [hleft, List.length_cons, List.length_append] at hfuel
    obtain ⟨fuel, rfl⟩ := Nat.exists_eq_add_one.2 (show 0 < fuel by omega)
    rw [hleft, List.cons_append, List.append_assoc]
    refine readElements_element ?_ (helement.back fuel _ (by omega)) (ih fuel (by omega))
    rw [hprint, List.cons_append, nextElement_comma hgap hclose]

/-- The elements of an array are read up to the closing bracket. -/
theorem readElements_printElements {depth : Nat} (elements : List Json) (rest : List Char)
    (h : ∀ element ∈ elements, ReadBack depth element) (fuel : Nat)
    (hfuel : 2 * (printElements elements).length ≤ fuel) :
    readElements fuel depth true (printElements elements ++ rest) = .ok (elements, rest) := by
  cases elements with
  | nil =>
    rw [printElements, List.length_singleton] at hfuel
    obtain ⟨fuel, rfl⟩ := Nat.exists_eq_add_one.2 (show 0 < fuel by omega)
    rw [printElements, List.singleton_append, readElements, nextElement_closed]
  | cons element elements =>
    have helement : ReadBack depth element := h element List.mem_cons_self
    obtain ⟨c, cs, hprint, hgap, hclose⟩ := helement.head
    -- neither the element nor what is left is printed as nothing, so there is fuel for both
    have hfirst : 0 < (print element).length := by
      rw [hprint]
      exact Nat.succ_pos _
    have hmore : 0 < (printElementsLeft elements).length := by
      cases elements <;> exact Nat.succ_pos _
    rw [printElements_cons, List.length_append] at hfuel
    obtain ⟨fuel, rfl⟩ := Nat.exists_eq_add_one.2 (show 0 < fuel by omega)
    have hleft := readElements_left elements rest (fun e he => h e (List.mem_cons_of_mem _ he)) fuel
      (by omega)
    rw [printElements_cons, List.append_assoc]
    refine readElements_element ?_ (helement.back fuel _ (by omega)) hleft
    rw [hprint, List.cons_append, nextElement_first hgap hclose]

/-! ### Fields -/

/-- What is printed behind a field: the closing brace, or a comma and the fields left. -/
def printFieldsLeft : List (String × Json) → List Char
  | [] => ['\x7d']
  | fields => ',' :: printFields fields

theorem printFields_cons (field : String × Json) (fields : List (String × Json)) :
    printFields (field :: fields) = printField field ++ printFieldsLeft fields := by
  cases fields <;> simp [printFields, printFieldsLeft]

theorem printField_append (name : String) (value : Json) (rest : List Char) :
    printField (name, value) ++ rest =
      '"' :: (name.toList.flatMap escape ++ '"' :: ':' :: (print value ++ rest)) := by
  rw [printField, List.append_assoc, printString_append, List.cons_append]

theorem nextName_closed (isFirst : Bool) (rest : List Char) :
    nextName isFirst ('\x7d' :: rest) = .ok (.closed rest) := by
  rw [nextName, skipGap_cons (by decide)]
  rfl

theorem nextName_first (cs : List Char) : nextName true ('"' :: cs) = .ok (.part cs) := by
  rw [nextName, skipGap_cons (by decide)]
  rfl

theorem nextName_comma (cs : List Char) : nextName false (',' :: '"' :: cs) = .ok (.part cs) := by
  have hcomma : skipGap (',' :: '"' :: cs) = ',' :: '"' :: cs := skipGap_cons (by decide) _
  have hnext : skipGap ('"' :: cs) = '"' :: cs := skipGap_cons (by decide) _
  rw [nextName, hcomma]
  split
  · next h => cases h
  · next h => exact absurd (List.cons.inj h).1 (by decide)
  · next h =>
    obtain ⟨rfl, rfl⟩ := List.cons.inj h
    rw [if_neg Bool.false_ne_true, if_pos rfl, hnext]
    rfl

theorem readColon_cons (cs : List Char) : readColon (':' :: cs) = .ok cs := by
  rw [readColon, skipGap_cons (by decide)]
  rfl

/-- One field is read, given how the fields behind it are read. -/
theorem readFields_field {fuel depth : Nat} {isFirst : Bool} {cs : List Char} {name : String}
    {value : Json} {fields : List (String × Json)} {left rest : List Char}
    (hnext : nextName isFirst cs =
      .ok (.part (name.toList.flatMap escape ++ '"' :: ':' :: (print value ++ left))))
    (hvalue : readValue fuel depth (print value ++ left) = .ok (value, left))
    (hleft : readFields fuel depth false left = .ok (fields, rest)) :
    readFields (fuel + 1) depth isFirst cs = .ok ((name, value) :: fields, rest) := by
  rw [readFields, hnext]
  simp only [readString_print, readColon_cons, hvalue, hleft]
  rfl

theorem length_printField (name : String) (value : Json) :
    (print value).length + 3 ≤ (printField (name, value)).length := by
  simp only [printField, printString, List.length_append, List.length_cons, List.length_nil]
  omega

/-- The fields left are read up to the closing brace. -/
theorem readFields_left {depth : Nat} (fields : List (String × Json)) (rest : List Char)
    (h : ∀ field ∈ fields, ReadBack depth field.2) :
    ∀ fuel, 2 * (printFieldsLeft fields).length ≤ fuel →
      readFields fuel depth false (printFieldsLeft fields ++ rest) = .ok (fields, rest) := by
  induction fields with
  | nil =>
    intro fuel hfuel
    rw [printFieldsLeft, List.length_singleton] at hfuel
    obtain ⟨fuel, rfl⟩ := Nat.exists_eq_add_one.2 (show 0 < fuel by omega)
    rw [printFieldsLeft, List.singleton_append, readFields, nextName_closed]
  | cons field fields ih =>
    intro fuel hfuel
    obtain ⟨name, value⟩ := field
    have hvalue : ReadBack depth value := h (name, value) List.mem_cons_self
    have ih := ih fun f hf => h f (List.mem_cons_of_mem _ hf)
    have hfieldsLeft : printFieldsLeft ((name, value) :: fields) =
        ',' :: (printField (name, value) ++ printFieldsLeft fields) := by
      rw [printFieldsLeft, printFields_cons]
      exact List.cons_ne_nil _ _
    have hlength := length_printField name value
    rw [hfieldsLeft, List.length_cons, List.length_append] at hfuel
    obtain ⟨fuel, rfl⟩ := Nat.exists_eq_add_one.2 (show 0 < fuel by omega)
    rw [hfieldsLeft, List.cons_append, List.append_assoc, printField_append]
    exact readFields_field (nextName_comma _) (hvalue.back fuel _ (by omega)) (ih fuel (by omega))

/-- The fields of an object are read up to the closing brace. -/
theorem readFields_printFields {depth : Nat} (fields : List (String × Json)) (rest : List Char)
    (h : ∀ field ∈ fields, ReadBack depth field.2) (fuel : Nat)
    (hfuel : 2 * (printFields fields).length ≤ fuel) :
    readFields fuel depth true (printFields fields ++ rest) = .ok (fields, rest) := by
  cases fields with
  | nil =>
    rw [printFields, List.length_singleton] at hfuel
    obtain ⟨fuel, rfl⟩ := Nat.exists_eq_add_one.2 (show 0 < fuel by omega)
    rw [printFields, List.singleton_append, readFields, nextName_closed]
  | cons field fields =>
    obtain ⟨name, value⟩ := field
    have hvalue : ReadBack depth value := h (name, value) List.mem_cons_self
    have hlength := length_printField name value
    rw [printFields_cons, List.length_append] at hfuel
    obtain ⟨fuel, rfl⟩ := Nat.exists_eq_add_one.2 (show 0 < fuel by omega)
    have hleft := readFields_left fields rest (fun f hf => h f (List.mem_cons_of_mem _ hf)) fuel
      (by omega)
    rw [printFields_cons, List.append_assoc, printField_append]
    exact readFields_field (nextName_first _) (hvalue.back fuel _ (by omega)) hleft

/-! ### Objects -/

/-- A field whose name comes after all others is put behind them. -/
theorem insert_of_lt {name : String} (value : Json) {fields : List (String × Json)}
    (h : ∀ field ∈ fields, field.1 < name) : insert name value fields = fields ++ [(name, value)] := by
  induction fields with
  | nil => rfl
  | cons field fields ih =>
    have hlt : field.1 < name := h field List.mem_cons_self
    have hne : name ≠ field.1 := fun heq => String.lt_irrefl name (heq ▸ hlt)
    rw [insert, if_neg (String.lt_asymm hlt), if_neg hne,
      ih fun f hf => h f (List.mem_cons_of_mem _ hf), List.cons_append]

/-- Fields in the order of their names are an object as they are. -/
theorem ofFields_of_sorted {fields : List (String × Json)}
    (h : fields.Pairwise fun a b => a.1 < b.1) : ofFields fields = .object fields := by
  have hfold : ∀ fields sorted : List (String × Json),
      (sorted ++ fields).Pairwise (fun a b => a.1 < b.1) →
      fields.foldl (fun sorted field => insert field.1 field.2 sorted) sorted = sorted ++ fields := by
    intro fields
    induction fields with
    | nil => intro sorted _; rw [List.foldl_nil, List.append_nil]
    | cons field fields ih =>
      intro sorted h
      have hlt : ∀ earlier ∈ sorted, earlier.1 < field.1 := fun earlier he =>
        (List.pairwise_append.1 h).2.2 earlier he field List.mem_cons_self
      have hsplit : sorted ++ field :: fields = (sorted ++ [field]) ++ fields := by simp
      rw [List.foldl_cons, insert_of_lt field.2 hlt, ih _ (hsplit ▸ h), hsplit]
  rw [ofFields, hfold fields [] h, List.nil_append]

/-! ### All values -/

/-- A value is read back if its first character begins a value and leads the reader to it. -/
theorem ReadBack.of_cons {depth : Nat} {value : Json} (c : Char) (cs : List Char)
    (hprint : print value = c :: cs) (hgap : isGap c = false) (hclose : c ≠ ']')
    (hread : ∀ fuel rest, 2 * cs.length ≤ fuel →
      readValue (fuel + 1) depth (c :: (cs ++ rest)) = .ok (value, rest)) :
    ReadBack depth value where
  head := ⟨c, cs, hprint, hgap, hclose⟩
  back := by
    intro fuel rest hfuel
    rw [hprint, List.length_cons] at hfuel
    obtain ⟨fuel, rfl⟩ := Nat.exists_eq_add_one.2 (show 0 < fuel by omega)
    rw [hprint, List.cons_append]
    exact hread fuel rest (by omega)

/-- **Readable values are read back.** -/
theorem readBack {depth : Nat} {value : Json} (h : Readable depth value) : ReadBack depth value := by
  induction h with
  | null depth =>
    exact .of_cons 'n' ['u', 'l', 'l'] rfl (by decide) (by decide)
      fun fuel rest _ => rfl
  | bool depth value =>
    cases value with
    | true =>
      exact .of_cons 't' ['r', 'u', 'e'] rfl (by decide) (by decide)
        fun fuel rest _ => rfl
    | false =>
      exact .of_cons 'f' ['a', 'l', 's', 'e'] rfl (by decide) (by decide)
        fun fuel rest _ => rfl
  | string depth value =>
    refine .of_cons '"' _ (by rw [print, printString, List.cons_append]) (by decide) (by decide)
      fun fuel rest _ => ?_
    rw [List.append_assoc, List.singleton_append, readValue, skipGap_cons (by decide)]
    simp only [readString_print]
    rfl
  | @array depth elements _ ih =>
    refine .of_cons '[' _ (by rw [print]) (by decide) (by decide) fun fuel rest hfuel => ?_
    rw [readValue, skipGap_cons (by decide)]
    simp only [readElements_printElements elements rest ih fuel hfuel]
    rfl
  | @object depth fields _ hsorted ih =>
    refine .of_cons '\x7b' _ (by rw [print]) (by decide) (by decide) fun fuel rest hfuel => ?_
    rw [readValue, skipGap_cons (by decide)]
    simp only [readFields_printFields fields rest ih fuel hfuel, Except.map]
    rw [ofFields_of_sorted hsorted]

/-! ## Texts -/

/-- **The printed form of a readable value is read as the value.** -/
theorem parse_print {value : Json} (h : Readable depthLimit value) :
    parse (print value) = .ok value := by
  have hread := (readBack h).back (2 * (print value).length + 2) [] (by omega)
  rw [List.append_nil] at hread
  rw [parse, readText, hread]
  rfl

/-! ## Lines -/

theorem visible_printString (text : String) : Visible (printString text) := by
  have hchars : Visible (text.toList.flatMap escape) := by
    intro d hd
    obtain ⟨c, _, hc⟩ := List.mem_flatMap.1 hd
    exact visible_escape c d hc
  rw [printString, List.cons_append, visible_cons, visible_append]
  exact ⟨by decide, hchars, by decide⟩

theorem visible_printElements {elements : List Json}
    (h : ∀ element ∈ elements, Visible (print element)) : Visible (printElements elements) := by
  induction elements with
  | nil => rw [printElements]; decide
  | cons element elements ih =>
    rw [printElements_cons, visible_append]
    refine ⟨h element List.mem_cons_self, ?_⟩
    have hleft := ih fun e he => h e (List.mem_cons_of_mem _ he)
    cases elements with
    | nil => rw [printElementsLeft]; decide
    | cons => exact visible_cons.2 ⟨by decide, hleft⟩

theorem visible_printFields {fields : List (String × Json)}
    (h : ∀ field ∈ fields, Visible (print field.2)) : Visible (printFields fields) := by
  induction fields with
  | nil => rw [printFields]; decide
  | cons field fields ih =>
    rw [printFields_cons, visible_append, printField, visible_append, visible_cons]
    refine ⟨⟨visible_printString _, by decide, h field List.mem_cons_self⟩, ?_⟩
    have hleft := ih fun f hf => h f (List.mem_cons_of_mem _ hf)
    cases fields with
    | nil => rw [printFieldsLeft]; decide
    | cons => exact visible_cons.2 ⟨by decide, hleft⟩

/-- **No control character stands in the printed form**, so it never spans lines. -/
theorem visible_print {depth : Nat} {value : Json} (h : Readable depth value) :
    Visible (print value) := by
  induction h with
  | null => rw [print]; decide
  | bool _ value => cases value <;> rw [print] <;> decide
  | string _ value => rw [print]; exact visible_printString value
  | array _ ih => rw [print, visible_cons]; exact ⟨by decide, visible_printElements ih⟩
  | object _ _ ih => rw [print, visible_cons]; exact ⟨by decide, visible_printFields ih⟩

end Bootstrapper.Json
