import Bootstrapper.Path.Full
import Mathlib.Data.List.Basic

/-!
# Names, steps and full paths

A path is read as its segments. This module says what a path is when it is written from segments
again:

* **`IsStep`** and **`IsName`**: a segment that leads somewhere, and one that does not lead up.
* **`names_ofNames`**: a path from names has these names, whatever they are.
* **`rooted`**: an absolute form, which is one slash or two and the steps. Every path has one
  (`exists_isRooted_of_absolute`), and pushing a step on it adds a step (`IsRooted.push_eq`).
* **`full_of_anchored`**: the full path is written from the names of what is looked at, which is the
  path itself or the path below the current directory (`anchored?`), whatever that directory is.
* **`full_eq_self_iff`**: an absolute form is its own full path exactly if it starts with one slash,
  no step leads up, and it is short enough.
-/

namespace Bootstrapper.Path

open Bytes (dot slash)

/-! ## Steps and names -/

/-- A segment that leads somewhere. -/
structure IsStep (segment : Bytes) : Prop where
  slash_not_mem : slash ∉ segment
  leads : stays segment = false

/-- A segment that leads down. -/
structure IsName (segment : Bytes) : Prop extends IsStep segment where
  descends : climbs segment = false

instance : DecidablePred IsName := fun segment =>
  decidable_of_iff (slash ∉ segment ∧ stays segment = false ∧ climbs segment = false)
    ⟨fun h => ⟨⟨h.1, h.2.1⟩, h.2.2⟩, fun h => ⟨h.slash_not_mem, h.leads, h.descends⟩⟩

theorem isName_iff {segment : Bytes} :
    IsName segment ↔
      slash ∉ segment ∧ segment ≠ [] ∧ segment ≠ [dot] ∧ segment ≠ [dot, dot] := by
  have hleads : stays segment = false ↔ segment ≠ [] ∧ segment ≠ [dot] := by simp [stays]
  have hdescends : climbs segment = false ↔ segment ≠ [dot, dot] := decide_eq_false_iff_not
  constructor
  · intro h
    obtain ⟨hne, hdot⟩ := hleads.1 h.leads
    exact ⟨h.slash_not_mem, hne, hdot, hdescends.1 h.descends⟩
  · rintro ⟨hslash, hne, hdot, hdots⟩
    exact ⟨⟨hslash, hleads.2 ⟨hne, hdot⟩⟩, hdescends.2 hdots⟩

theorem IsStep.ne_nil {segment : Bytes} (h : IsStep segment) : segment ≠ [] := by
  rintro rfl
  cases h.leads

theorem isStep_of_mem_steps {path segment : Bytes} (h : segment ∈ steps path) :
    IsStep segment := by
  obtain ⟨hmem, hleads⟩ := List.mem_filter.1 h
  exact ⟨Bytes.not_mem_of_mem_split hmem, by simpa using hleads⟩

theorem dots_mem_steps_iff {path : Bytes} :
    [dot, dot] ∈ steps path ↔ [dot, dot] ∈ segments path := by
  have hleads : stays [dot, dot] = false := by decide
  simp [steps, hleads]

/-- What is left of steps when each `..` takes back the name before it. -/
def folded (steps : List Bytes) : List Bytes :=
  (steps.foldl fold []).reverse

theorem foldl_fold_filter (segments stack : List Bytes) :
    (segments.filter fun segment => !stays segment).foldl fold stack =
      segments.foldl fold stack := by
  induction segments generalizing stack with
  | nil => rfl
  | cons segment segments ih =>
    cases h : stays segment with
    | true =>
      have hstack : fold stack segment = stack := if_pos h
      rw [List.filter_cons_of_neg (by simp [h]), List.foldl_cons, hstack, ih]
    | false =>
      rw [List.filter_cons_of_pos (by simp [h]), List.foldl_cons, List.foldl_cons, ih]

theorem names_eq_folded (path : Bytes) : names path = folded (steps path) := by
  rw [names, folded, steps, foldl_fold_filter]

theorem foldl_fold_names {names : List Bytes} (h : ∀ name ∈ names, IsName name)
    (stack : List Bytes) : names.foldl fold stack = names.reverse ++ stack := by
  induction names generalizing stack with
  | nil => rfl
  | cons name names ih =>
    have hname := h name List.mem_cons_self
    have hstack : fold stack name = name :: stack := by
      simp [fold, hname.leads, hname.descends]
    rw [List.foldl_cons, hstack, ih fun n hn => h n (List.mem_cons_of_mem name hn),
      List.reverse_cons, List.append_assoc, List.singleton_append]

theorem folded_append {names : List Bytes} (before : List Bytes)
    (h : ∀ name ∈ names, IsName name) : folded (before ++ names) = folded before ++ names := by
  rw [folded, List.foldl_append, foldl_fold_names h, List.reverse_append, List.reverse_reverse]
  rfl

theorem folded_names {names : List Bytes} (h : ∀ name ∈ names, IsName name) :
    folded names = names :=
  folded_append [] h

/-- A name that is taken back again leaves nothing. -/
theorem folded_detour {names : List Bytes} {detour name : Bytes}
    (h : ∀ name ∈ names, IsName name) (hdetour : IsName detour) (hname : IsName name) :
    folded (names ++ [detour, [dot, dot], name]) = names ++ [name] := by
  have hclimbs : stays [dot, dot] = false ∧ climbs [dot, dot] = true := by decide
  rw [folded, List.foldl_append, foldl_fold_names h]
  simp [fold, hdetour.leads, hdetour.descends, hclimbs, hname.leads, hname.descends]

/-- A stack of names stays one. -/
theorem isName_of_mem_fold {stack : List Bytes} {segment : Bytes} (hsegment : slash ∉ segment)
    (hstack : ∀ n ∈ stack, IsName n) : ∀ n ∈ fold stack segment, IsName n := by
  intro n hn
  unfold fold at hn
  split_ifs at hn with hstays hclimbs
  · exact hstack n hn
  · exact hstack n (List.mem_of_mem_tail hn)
  · obtain rfl | hn := List.mem_cons.1 hn
    · exact ⟨⟨hsegment, Bool.not_eq_true _ ▸ hstays⟩, Bool.not_eq_true _ ▸ hclimbs⟩
    · exact hstack n hn

/-- What is left are names. -/
theorem isName_of_mem_folded {segments : List Bytes} (h : ∀ segment ∈ segments, slash ∉ segment)
    {name : Bytes} (hname : name ∈ folded segments) : IsName name := by
  have hstack : ∀ (stack : List Bytes), (∀ n ∈ stack, IsName n) →
      ∀ n ∈ segments.foldl fold stack, IsName n := by
    clear hname
    induction segments with
    | nil => exact fun _ hstack => hstack
    | cons segment segments ih =>
      intro stack hstack
      exact ih (fun s hs => h s (List.mem_cons_of_mem segment hs)) _
        (isName_of_mem_fold (h segment List.mem_cons_self) hstack)
  exact hstack [] (by simp) name (List.mem_reverse.1 hname)

theorem isName_of_mem_names {path name : Bytes} (h : name ∈ names path) : IsName name := by
  rw [names_eq_folded] at h
  exact isName_of_mem_folded (fun s hs => (isStep_of_mem_steps hs).slash_not_mem) h

theorem mem_of_mem_folded {segments : List Bytes} {name : Bytes} (h : name ∈ folded segments) :
    name ∈ segments := by
  have hstack : ∀ (stack : List Bytes), ∀ n ∈ segments.foldl fold stack,
      n ∈ segments ∨ n ∈ stack := by
    clear h
    induction segments with
    | nil => exact fun _ _ hn => .inr hn
    | cons segment segments ih =>
      intro stack n hn
      obtain hn | hn := ih _ n hn
      · exact .inl (List.mem_cons_of_mem segment hn)
      · unfold fold at hn
        split_ifs at hn
        · exact .inr hn
        · exact .inr (List.mem_of_mem_tail hn)
        · obtain rfl | hn := List.mem_cons.1 hn
          · exact .inl List.mem_cons_self
          · exact .inr hn
  obtain hmem | hmem := hstack [] name (List.mem_reverse.1 h)
  · exact hmem
  · cases hmem

/-- Nothing is taken back exactly if no step leads up. -/
theorem folded_eq_self_iff {steps : List Bytes} (h : ∀ step ∈ steps, IsStep step) :
    folded steps = steps ↔ ∀ step ∈ steps, climbs step = false := by
  constructor
  · intro hsame step hstep
    exact (isName_of_mem_folded (fun s hs => (h s hs).slash_not_mem) (hsame.symm ▸ hstep)).descends
  · intro hdescends
    exact folded_names fun step hstep => ⟨h step hstep, hdescends step hstep⟩

/-! ## Paths from steps -/

theorem ofNames_eq {names : List Bytes} (h : names ≠ []) :
    ofNames names = names.flatMap (slash :: ·) := by
  cases names with
  | nil => exact absurd rfl h
  | cons name names => rfl

theorem ofNames_eq_intercalate (names : List Bytes) :
    ofNames names = slash :: [slash].intercalate names := by
  induction names with
  | nil => rfl
  | cons name names ih =>
    cases names with
    | nil => simp [ofNames]
    | cons next names =>
      rw [List.intercalate_cons_cons, ofNames_eq (by simp), List.flatMap_cons,
        ← ofNames_eq (by simp), ih]
      simp

/-- A slash parts the steps before it from those after it. -/
theorem steps_append_slash (before after : Bytes) :
    steps (before ++ slash :: after) = steps before ++ steps after := by
  rw [steps, segments, Bytes.split_append, List.filter_append]
  rfl

theorem steps_push (path segment : Bytes) :
    steps (push path segment) = steps path ++ steps segment := by
  obtain rfl | ⟨before, last, rfl⟩ := List.eq_nil_or_concat' path
  · rfl
  · rw [push, List.getLast?_concat]
    dsimp only
    split_ifs with h
    · -- the slash at the end is followed by no step of its own
      have hclosed : steps (before ++ [slash]) = steps before ++ [] := steps_append_slash before []
      rw [h, hclosed, List.append_assoc, List.singleton_append, steps_append_slash, List.append_nil]
    · exact steps_append_slash _ _

theorem steps_of_isStep {step : Bytes} (h : IsStep step) : steps step = [step] := by
  rw [steps, segments, Bytes.split_of_not_mem h.slash_not_mem]
  simp [h.leads]

/-- Pushing steps adds them to those of any path. -/
theorem steps_foldl_push (path : Bytes) {ts : List Bytes} (h : ∀ t ∈ ts, IsStep t) :
    steps (ts.foldl push path) = steps path ++ ts := by
  induction ts generalizing path with
  | nil => rw [List.foldl_nil, List.append_nil]
  | cons t ts ih =>
    rw [List.foldl_cons, ih _ fun s hs => h s (List.mem_cons_of_mem t hs), steps_push,
      steps_of_isStep (h t List.mem_cons_self), List.append_assoc, List.singleton_append]

theorem segments_chain {names : List Bytes} (h : ∀ name ∈ names, slash ∉ name) :
    segments (names.flatMap (slash :: ·)) = [] :: names := by
  -- the chain with the first slash left out
  have hrest : ∀ (first : Bytes) (rest : List Bytes), slash ∉ first →
      (∀ name ∈ rest, slash ∉ name) →
      Bytes.split slash (first ++ rest.flatMap (slash :: ·)) = first :: rest := by
    intro first rest
    induction rest generalizing first with
    | nil =>
      intro hfirst _
      rw [List.flatMap_nil, List.append_nil, Bytes.split_of_not_mem hfirst]
    | cons name rest ih =>
      intro hfirst hrest
      rw [List.flatMap_cons, List.cons_append, Bytes.split_append, Bytes.split_of_not_mem hfirst,
        ih name (hrest name List.mem_cons_self) fun n hn => hrest n (List.mem_cons_of_mem name hn)]
      rfl
  exact hrest [] names List.not_mem_nil h

theorem segments_ofNames {names : List Bytes} (h : ∀ name ∈ names, slash ∉ name)
    (hne : names ≠ []) : segments (ofNames names) = [] :: names := by
  rw [ofNames_eq hne, segments_chain h]

theorem steps_ofNames {ss : List Bytes} (h : ∀ s ∈ ss, IsStep s) : steps (ofNames ss) = ss := by
  obtain rfl | hne := eq_or_ne ss []
  · rfl
  · have hall : ss.filter (fun s => !stays s) = ss :=
      List.filter_eq_self.2 fun s hs => by simp [(h s hs).leads]
    rw [steps, segments_ofNames (fun s hs => (h s hs).slash_not_mem) hne]
    exact hall

/-- An absolute form: one slash or two, and the steps between slashes. -/
def rooted (doubled : Bool) (steps : List Bytes) : Bytes :=
  if doubled then slash :: ofNames steps else ofNames steps

section

variable {doubled : Bool} {ss ts : List Bytes} {step : Bytes} {path whole : Bytes}
  {directory : Option Bytes}

theorem steps_rooted (h : ∀ s ∈ ss, IsStep s) : steps (rooted doubled ss) = ss := by
  cases doubled with
  | false => exact steps_ofNames h
  | true => exact (steps_append_slash [] (ofNames ss)).trans (steps_ofNames h)

/-- **A path from names has these names.** -/
theorem names_ofNames {names : List Bytes} (h : ∀ name ∈ names, IsName name) :
    Path.names (ofNames names) = names := by
  rw [names_eq_folded, steps_ofNames fun n hn => (h n hn).toIsStep, folded_names h]

theorem ofNames_concat (names : List Bytes) (name : Bytes) :
    ofNames (names ++ [name]) = names.flatMap (slash :: ·) ++ slash :: name := by
  rw [ofNames_eq (by simp), List.flatMap_append, List.flatMap_singleton]

theorem rooted_concat (doubled : Bool) (ss : List Bytes) (step : Bytes) :
    rooted doubled (ss ++ [step]) =
      (if doubled then [slash] else []) ++ ss.flatMap (slash :: ·) ++ slash :: step := by
  rw [rooted, ofNames_concat]
  cases doubled <;> rfl

/-- A slash in a last step parts it into two. -/
theorem rooted_slash (doubled : Bool) (ss : List Bytes) (before after : Bytes) :
    rooted doubled (ss ++ [before ++ slash :: after]) = rooted doubled (ss ++ [before, after]) := by
  have htwo : ss ++ [before, after] = (ss ++ [before]) ++ [after] := by simp
  rw [htwo, rooted_concat, rooted_concat]
  simp

/-- The last byte of an absolute form is a slash only if nothing follows the slashes. -/
theorem getLast?_rooted_concat (doubled : Bool) (ss : List Bytes) (hstep : IsStep step) :
    ∃ b, (rooted doubled (ss ++ [step])).getLast? = some b ∧ b ≠ slash := by
  obtain ⟨b, hb⟩ := Option.isSome_iff_exists.1 (List.getLast?_isSome.2 hstep.ne_nil)
  refine ⟨b, ?_, fun h => hstep.slash_not_mem (h ▸ List.mem_of_getLast? hb)⟩
  rw [rooted_concat, List.getLast?_append, List.getLast?_cons, hb]
  rfl

/-- Pushing a step on an absolute form adds the step. -/
theorem push_rooted (h : ∀ s ∈ ss, IsStep s) :
    push (rooted doubled ss) step = rooted doubled (ss ++ [step]) := by
  obtain rfl | ⟨before, last, rfl⟩ := List.eq_nil_or_concat' ss
  · cases doubled <;> simp [push, rooted, ofNames]
  · obtain ⟨b, hb, hslash⟩ := getLast?_rooted_concat doubled before (h last (by simp))
    rw [push, hb]
    simp only [if_neg hslash]
    rw [rooted_concat doubled (before ++ [last]), rooted_concat doubled before,
      List.flatMap_append, List.flatMap_singleton, List.append_assoc _ (before.flatMap _)]

theorem foldl_push_rooted (h : ∀ s ∈ ss, IsStep s) (hts : ∀ t ∈ ts, IsStep t) :
    ts.foldl push (rooted doubled ss) = rooted doubled (ss ++ ts) := by
  induction ts generalizing ss with
  | nil => rw [List.foldl_nil, List.append_nil]
  | cons t ts ih =>
    have hboth : ∀ s ∈ ss ++ [t], IsStep s :=
      List.forall_mem_append.2 ⟨h, List.forall_mem_singleton.2 (hts t List.mem_cons_self)⟩
    rw [List.foldl_cons, push_rooted h, ih hboth fun s hs => hts s (List.mem_cons_of_mem t hs),
      List.append_assoc, List.singleton_append]

/-! ## Absolute forms -/

/-- An absolute form with or without a slash at its end. -/
inductive IsRooted (path : Bytes) (doubled : Bool) (ss : List Bytes) : Prop
  | bare (h : path = rooted doubled ss)
  | closed (hne : ss ≠ []) (h : path = rooted doubled ss ++ [slash])

theorem exists_root_eq (path : Bytes) : ∃ doubled, root path = rooted doubled [] := by
  unfold root
  split
  · split
    · exact ⟨true, rfl⟩
    · exact ⟨false, rfl⟩
  · exact ⟨false, rfl⟩

theorem steps_root (path : Bytes) : steps (root path) = [] := by
  obtain ⟨doubled, hroot⟩ := exists_root_eq path
  rw [hroot, steps_rooted (by simp)]

theorem root_rooted (h : ∀ s ∈ ss, IsStep s) : root (rooted doubled ss) = rooted doubled [] := by
  cases ss with
  | nil => cases doubled <;> rfl
  | cons s ss =>
    have hs := h s List.mem_cons_self
    obtain ⟨b, rest, rfl⟩ := List.exists_cons_of_ne_nil hs.ne_nil
    have hb : b ≠ slash := fun he => hs.slash_not_mem (he ▸ List.mem_cons_self)
    cases doubled <;> simp [rooted, ofNames, root, hb]

theorem isEmpty_of_isAbsolute (h : isAbsolute path = true) : path.isEmpty = false := by
  cases path with
  | nil => cases h
  | cons => rfl

theorem isAbsolute_rooted : isAbsolute (rooted doubled ss) = true := by
  cases doubled <;> cases ss <;> rfl

/-- An absolute form is found as it is. -/
theorem absolute_rooted (h : ∀ s ∈ ss, IsStep s) :
    absolute directory (rooted doubled ss) = .ok (rooted doubled ss) := by
  have hwhole : ss.foldl push (rooted doubled []) = rooted doubled ss :=
    foldl_push_rooted (by simp) h
  have hempty : (rooted doubled ss).isEmpty = false := isEmpty_of_isAbsolute isAbsolute_rooted
  simp only [absolute, hempty, isAbsolute_rooted, Bool.false_eq_true, if_false, if_true,
    root_rooted h, steps_rooted h, hwhole]
  obtain rfl | ⟨before, last, rfl⟩ := List.eq_nil_or_concat' ss
  · cases doubled <;> rfl
  · obtain ⟨b, hb, hslash⟩ := getLast?_rooted_concat doubled before (h last (by simp))
    rw [hb, if_neg fun he => hslash (Option.some.inj he)]

/-- **The absolute form of a path.** The current directory has to be a path from names. -/
theorem exists_isRooted_of_absolute
    (hdirectory : ∀ d, directory = some d → ∃ names, (∀ n ∈ names, IsName n) ∧ d = ofNames names)
    (h : absolute directory path = .ok whole) :
    ∃ doubled ss, (∀ s ∈ ss, IsStep s) ∧ IsRooted whole doubled ss := by
  have hstart : ∃ start doubled ss, (if isAbsolute path then some (root path) else directory) =
      some start ∧ (∀ s ∈ ss, IsStep s) ∧ start = rooted doubled ss := by
    by_cases habsolute : isAbsolute path = true
    · obtain ⟨doubled, hroot⟩ := exists_root_eq path
      exact ⟨_, doubled, [], if_pos habsolute, by simp, hroot⟩
    · cases hd : directory with
      | none => simp [absolute, habsolute, hd] at h; split at h <;> cases h
      | some d =>
        obtain ⟨names, hnames, rfl⟩ := hdirectory d hd
        exact ⟨_, false, names, if_neg habsolute, fun n hn => (hnames n hn).toIsStep, rfl⟩
  obtain ⟨start, doubled, before, hstart, hbefore, rfl⟩ := hstart
  have hsteps : ∀ s ∈ before ++ steps path, IsStep s :=
    List.forall_mem_append.2 ⟨hbefore, fun _ => isStep_of_mem_steps⟩
  refine ⟨doubled, before ++ steps path, hsteps, ?_⟩
  unfold absolute at h
  rw [hstart] at h
  split at h
  · cases h
  obtain rfl := Except.ok.inj h
  rw [foldl_push_rooted hbefore fun s => isStep_of_mem_steps]
  split
  · -- a slash at the end is pushed as an empty segment
    rw [push_rooted hsteps]
    obtain hnil | ⟨ss, last, hss⟩ := List.eq_nil_or_concat' (before ++ steps path)
    · rw [hnil]
      exact .bare (by cases doubled <;> rfl)
    · rw [hss]
      refine .closed (by simp) ?_
      rw [rooted_concat doubled (ss ++ [last]), rooted_concat doubled ss, List.flatMap_append,
        List.flatMap_singleton, List.append_assoc _ (ss.flatMap _)]
  · exact .bare rfl

namespace IsRooted

theorem steps_eq (hpath : IsRooted path doubled ss) (h : ∀ s ∈ ss, IsStep s) :
    steps path = ss := by
  cases hpath with
  | bare hpath => rw [hpath, steps_rooted h]
  | closed hne hpath =>
    have hclosed : steps (rooted doubled ss ++ [slash]) = steps (rooted doubled ss) ++ [] :=
      steps_append_slash _ []
    rw [hpath, hclosed, steps_rooted h, List.append_nil]

/-- Pushing a step adds the step, whether or not there is a slash at the end. -/
theorem push_eq (hpath : IsRooted path doubled ss) (h : ∀ s ∈ ss, IsStep s) :
    push path step = rooted doubled (ss ++ [step]) := by
  cases hpath with
  | bare hpath => rw [hpath, push_rooted h]
  | closed hne hpath =>
    obtain ⟨before, last, rfl⟩ := (List.eq_nil_or_concat' ss).resolve_left hne
    have hlast : path.getLast? = some slash := by rw [hpath, List.getLast?_concat]
    rw [push, hlast]
    simp only [if_true]
    rw [hpath, rooted_concat doubled (before ++ [last]), rooted_concat doubled before,
      List.flatMap_append, List.flatMap_singleton]
    simp only [List.append_assoc, List.cons_append, List.nil_append]

theorem doubled_iff (hpath : IsRooted path doubled ss) (h : ∀ s ∈ ss, IsStep s) :
    [slash, slash] <+: path ↔ doubled = true := by
  have hpath : ∃ rest, path = rooted doubled ss ++ rest ∧ (ss = [] → rest = []) := by
    cases hpath with
    | bare hpath => exact ⟨[], by rw [hpath, List.append_nil], fun _ => rfl⟩
    | closed hne hpath => exact ⟨[slash], hpath, fun hnil => absurd hnil hne⟩
  obtain ⟨rest, rfl, hrest⟩ := hpath
  cases ss with
  | nil =>
    rw [hrest rfl]
    cases doubled <;> simp [rooted, ofNames]
  | cons s ss =>
    -- the first step does not begin with a slash
    have hs := h s List.mem_cons_self
    obtain ⟨b, s, rfl⟩ := List.exists_cons_of_ne_nil hs.ne_nil
    have hb : slash ≠ b := fun he => hs.slash_not_mem (he ▸ List.mem_cons_self)
    cases doubled <;> simp [rooted, ofNames, hb]

end IsRooted

/-! ## What is looked at -/

/-- The path that is looked at: one from the root as it is, any other below the current directory. -/
def anchored? (directory : Option Bytes) (path : Bytes) : Option Bytes :=
  if path = [] then none
  else if path.head? = some slash then some path
  else directory.map fun here => here ++ slash :: path

theorem anchored?_eq_none_iff :
    anchored? directory path = none ↔ path = [] ∨ path.head? ≠ some slash ∧ directory = none := by
  unfold anchored?
  split_ifs with hempty habsolute <;> simp [*]

theorem anchored?_of_isAbsolute (h : isAbsolute path = true) :
    anchored? directory path = some path := by
  have hne : path ≠ [] := List.isEmpty_eq_false_iff.1 (isEmpty_of_isAbsolute h)
  rw [anchored?, if_neg hne, if_pos (of_decide_eq_true h)]

/-- An absolute form has the steps of where it starts and those of the path. -/
theorem exists_absolute_eq {start : Bytes} (hne : path ≠ [])
    (h : (if isAbsolute path then some (root path) else directory) = some start) :
    ∃ form, absolute directory path = .ok form ∧ steps form = steps start ++ steps path := by
  have hempty : path.isEmpty = false := List.isEmpty_eq_false_iff.2 hne
  have hwhole : steps ((steps path).foldl push start) = steps start ++ steps path :=
    steps_foldl_push start fun _ => isStep_of_mem_steps
  refine ⟨_, by simp only [absolute, hempty, h]; rfl, ?_⟩
  split
  · -- the empty segment for a slash at the end is no step
    rw [steps_push, hwhole]
    exact List.append_nil _
  · exact hwhole

/-- **An absolute form has the steps of what is looked at.** -/
theorem exists_absolute_of_anchored (h : anchored? directory path = some whole) :
    ∃ form, absolute directory path = .ok form ∧ steps form = steps whole := by
  unfold anchored? at h
  split_ifs at h with hempty habsolute
  · obtain rfl := Option.some.inj h
    obtain ⟨form, hform, hsteps⟩ := exists_absolute_eq hempty (if_pos (decide_eq_true habsolute))
    exact ⟨form, hform, by rw [hsteps, steps_root, List.nil_append]⟩
  · obtain ⟨here, rfl, rfl⟩ := Option.map_eq_some_iff.1 h
    obtain ⟨form, hform, hsteps⟩ :=
      exists_absolute_eq hempty (if_neg (by simpa [isAbsolute] using habsolute))
    exact ⟨form, hform, by rw [hsteps, steps_append_slash]⟩

/-! ## Full paths -/

theorem full_of_absolute (h : absolute directory path = .ok whole) :
    full directory path =
      if (ofNames (folded (steps whole))).length < capacity then
        .ok (ofNames (folded (steps whole)))
      else .error (.tooLong (ofNames (folded (steps whole))).length capacity) := by
  simp only [full, h, names_eq_folded]

/-- **The full path is written from the names of what is looked at.** -/
theorem full_of_anchored (h : anchored? directory path = some whole) :
    full directory path =
      if (ofNames (names whole)).length < capacity then .ok (ofNames (names whole))
      else .error (.tooLong (ofNames (names whole)).length capacity) := by
  obtain ⟨form, hform, hsteps⟩ := exists_absolute_of_anchored h
  rw [full_of_absolute hform, hsteps, ← names_eq_folded]

theorem full_of_not_anchored (h : anchored? directory path = none) :
    full directory path = .error (.fullPath (Utf8.decodeLossy path)) := by
  obtain rfl | ⟨habsolute, rfl⟩ := anchored?_eq_none_iff.1 h
  · rfl
  · have hrelative : isAbsolute path = false := decide_eq_false habsolute
    simp only [full, absolute, hrelative]
    cases path.isEmpty <;> rfl

theorem full_eq_error {failure : Failure} (h : full directory path = .error failure) :
    failure = .fullPath (Utf8.decodeLossy path) ∨ ∃ length, failure = .tooLong length capacity := by
  unfold full at h
  split at h
  · exact .inl (Except.error.inj h).symm
  · dsimp only at h
    split at h
    · cases h
    · exact .inr ⟨_, (Except.error.inj h).symm⟩

/-- **When an absolute form is its own full path.** -/
theorem full_eq_self_iff (h : ∀ s ∈ ss, IsStep s) :
    full directory (rooted doubled ss) = .ok (rooted doubled ss) ↔
      doubled = false ∧ (∀ s ∈ ss, climbs s = false) ∧
        (rooted doubled ss).length < capacity := by
  rw [full_of_absolute (absolute_rooted h), steps_rooted h]
  constructor
  · intro hfull
    split at hfull
    case isFalse => cases hfull
    rename_i hlength
    have hsame : ofNames (folded ss) = rooted doubled ss := Except.ok.inj hfull
    have hnames : ∀ n ∈ folded ss, IsName n := fun n =>
      isName_of_mem_folded fun s hs => (h s hs).slash_not_mem
    have hsteps : folded ss = ss := by
      have hleft : steps (ofNames (folded ss)) = folded ss :=
        steps_ofNames fun n hn => (hnames n hn).toIsStep
      have hright : steps (rooted doubled ss) = ss := steps_rooted h
      exact hleft.symm.trans ((congrArg steps hsame).trans hright)
    rw [hsteps] at hsame hlength
    refine ⟨?_, (folded_eq_self_iff h).1 hsteps, hsame ▸ hlength⟩
    -- one slash more would be one byte more
    cases doubled with
    | false => rfl
    | true => exact absurd (congrArg List.length hsame) (by simp [rooted])
  · rintro ⟨rfl, hdescends, hlength⟩
    rw [(folded_eq_self_iff h).2 hdescends]
    exact if_pos hlength

/-- A relative path is seen from the names of the current directory. -/
theorem full_relative {names : List Bytes} (hnames : ∀ n ∈ names, IsName n) (hne : path ≠ [])
    (hrelative : isAbsolute path = false) :
    full (some (ofNames names)) path =
      if (ofNames (folded (names ++ steps path))).length < capacity then
        .ok (ofNames (folded (names ++ steps path)))
      else .error (.tooLong (ofNames (folded (names ++ steps path))).length capacity) := by
  have hanchored :
      anchored? (some (ofNames names)) path = some (ofNames names ++ slash :: path) := by
    rw [anchored?, if_neg hne, if_neg (of_decide_eq_false hrelative)]
    rfl
  have hbefore : steps (ofNames names) = names := steps_ofNames fun n hn => (hnames n hn).toIsStep
  rw [full_of_anchored hanchored, names_eq_folded, steps_append_slash, hbefore]

end

end Bootstrapper.Path
