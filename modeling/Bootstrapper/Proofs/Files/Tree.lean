import Bootstrapper.Files.Tree
import Bootstrapper.Proofs.Path.Full

/-!
# Walks, real paths and directories that are made

A walk through a tree is a chain of single steps (`walk_cons_iff`), and what is proved about walks is
proved about a step first:

* **`Keeps`**: a tree that keeps what stood in another one leads wherever the other one led.
* **`Reached`**: where a walk from the root can end. `names_of_walk` tells where by looking at the
  path alone, and the path of its names leads there again (`realPath_ofNames`).
* **`ensureAll_keeps`**, **`isDirectory_ensureAll`**: making a directory keeps what there is, and it
  is there afterwards.
-/

namespace Bootstrapper.FileTree

open Bytes (slash nul)

/-! ## Single steps of a walk -/

theorem isDirectoryAt_iff {tree : FileTree} {names : List Bytes} :
    tree.isDirectoryAt names = true ↔ tree.node? names = some .directory := by
  unfold isDirectoryAt
  split
  · simp [*]
  · simp_all

/-- Where a segment leads from a directory. -/
inductive Leads (tree : FileTree) (here : List Bytes) (segment : Bytes) : List Bytes → Prop
  | stays (h : Path.stays segment = true) : Leads tree here segment here
  | climbs (hleads : Path.stays segment = false) (h : Path.climbs segment = true) :
    Leads tree here segment here.dropLast
  | descends {node : Node} (hleads : Path.stays segment = false)
      (h : Path.climbs segment = false) (hlength : segment.length ≤ nameLimit)
      (hnode : tree.node? (here ++ [segment]) = some node) :
    Leads tree here segment (here ++ [segment])

section

variable {tree before after : FileTree} {here names : List Bytes} {segment : Bytes}
  {segments : List Bytes} {directory : Option Bytes} {path : Bytes}

theorem walk_cons_iff :
    tree.walk here (segment :: segments) = .ok names ↔
      tree.isDirectoryAt here = true ∧
        ∃ next, tree.Leads here segment next ∧ tree.walk next segments = .ok names := by
  rw [walk]
  constructor
  · intro h
    split at h
    · cases h
    rename_i hdirectory
    refine ⟨by simpa using hdirectory, ?_⟩
    split at h
    · rename_i hstays
      exact ⟨_, .stays hstays, h⟩
    rename_i hstays
    rw [Bool.not_eq_true] at hstays
    split at h
    · rename_i hclimbs
      exact ⟨_, .climbs hstays hclimbs, h⟩
    rename_i hclimbs
    split at h
    · cases h
    rename_i hlength
    split at h
    · cases h
    rename_i hnode
    rw [Option.isNone_iff_eq_none] at hnode
    obtain ⟨node, hnode⟩ := Option.ne_none_iff_exists'.1 hnode
    exact ⟨_, .descends hstays (Bool.not_eq_true _ ▸ hclimbs) (Nat.le_of_not_lt hlength) hnode, h⟩
  · rintro ⟨hdirectory, next, hleads, h⟩
    cases hleads with
    | stays hstays => simp [hdirectory, hstays, h]
    | climbs hstays hclimbs => simp [hdirectory, hstays, hclimbs, h]
    | descends hstays hclimbs hlength hnode =>
      simp [hdirectory, hstays, hclimbs, Nat.not_lt.2 hlength, hnode, h]

/-- A walk goes on from where its first part ends. -/
theorem walk_append (tree : FileTree) (here first second : List Bytes) :
    tree.walk here (first ++ second) =
      match tree.walk here first with
      | .error error => .error error
      | .ok names => tree.walk names second := by
  induction first generalizing here with
  | nil => rfl
  | cons segment first ih =>
    rw [List.cons_append, walk, walk]
    simp only [ih]
    split_ifs <;> rfl

theorem walk_stays (hdirectory : tree.isDirectoryAt here = true)
    (h : ∀ segment ∈ segments, Path.stays segment = true) :
    tree.walk here segments = .ok here := by
  induction segments with
  | nil => rfl
  | cons segment segments ih =>
    exact walk_cons_iff.2 ⟨hdirectory, here, .stays (h segment List.mem_cons_self),
      ih fun s hs => h s (List.mem_cons_of_mem segment hs)⟩

/-! ## Trees that keep what there is -/

/-- Everything that stands in the first tree stands in the second one. -/
def Keeps (before after : FileTree) : Prop :=
  ∀ names node, before.node? names = some node → after.node? names = some node

theorem Keeps.refl (tree : FileTree) : tree.Keeps tree :=
  fun _ _ h => h

theorem Keeps.trans {first second third : FileTree} (h : first.Keeps second)
    (h' : second.Keeps third) : first.Keeps third :=
  fun names node hnode => h' names node (h names node hnode)

theorem keeps_insert {node : Node} (h : tree.node? names = none) :
    tree.Keeps (tree.insert names node) := by
  intro other node' hother
  have hne : other ≠ names := by
    rintro rfl
    rw [h] at hother
    cases hother
  exact (if_neg hne).trans hother

namespace Keeps

theorem isDirectoryAt (h : before.Keeps after) (hbefore : before.isDirectoryAt names = true) :
    after.isDirectoryAt names = true :=
  isDirectoryAt_iff.2 (h _ _ (isDirectoryAt_iff.1 hbefore))

theorem leads (h : before.Keeps after) {next : List Bytes}
    (hbefore : before.Leads here segment next) : after.Leads here segment next := by
  cases hbefore with
  | stays hstays => exact .stays hstays
  | climbs hstays hclimbs => exact .climbs hstays hclimbs
  | descends hstays hclimbs hlength hnode =>
    exact .descends hstays hclimbs hlength (h _ _ hnode)

/-- **A walk ends where it ended before.** -/
theorem walk (h : before.Keeps after) (hbefore : before.walk here segments = .ok names) :
    after.walk here segments = .ok names := by
  induction segments generalizing here with
  | nil => exact hbefore
  | cons segment segments ih =>
    obtain ⟨hdirectory, next, hleads, hrest⟩ := walk_cons_iff.1 hbefore
    exact walk_cons_iff.2 ⟨h.isDirectoryAt hdirectory, next, h.leads hleads, ih hrest⟩

theorem resolve (h : before.Keeps after) (hbefore : before.resolve directory path = .ok names) :
    after.resolve directory path = .ok names := by
  unfold FileTree.resolve at hbefore ⊢
  split at hbefore
  · cases hbefore
  · exact h.walk hbefore

end Keeps

theorem lookup_eq_ok_iff {node : Node} :
    tree.lookup directory path = .ok node ↔
      ∃ names, tree.resolve directory path = .ok names ∧ tree.node? names = some node := by
  unfold lookup
  cases tree.resolve directory path with
  | error error => simp
  | ok names => cases h : tree.node? names <;> simp [h]

theorem Keeps.lookup (h : before.Keeps after) {node : Node}
    (hbefore : before.lookup directory path = .ok node) :
    after.lookup directory path = .ok node := by
  obtain ⟨names, hresolve, hnode⟩ := lookup_eq_ok_iff.1 hbefore
  exact lookup_eq_ok_iff.2 ⟨names, h.resolve hresolve, h _ _ hnode⟩

theorem isDirectory_iff :
    tree.isDirectory directory path = true ↔ tree.lookup directory path = .ok .directory := by
  unfold isDirectory
  split <;> simp_all

theorem holds_of_lookup {node : Node} (h : tree.lookup directory path = .ok node) :
    tree.holds directory path = true := by
  rw [holds, h]
  rfl

/-! ## Where walks end -/

/-- Where a walk from the root can end: every name is found in a directory. -/
inductive Reached (tree : FileTree) : List Bytes → Prop
  | root : Reached tree []
  | child {here : List Bytes} {name : Bytes} {node : Node} (hhere : Reached tree here)
      (hdirectory : tree.isDirectoryAt here = true) (hname : Path.IsName name)
      (hlength : name.length ≤ nameLimit) (hnode : tree.node? (here ++ [name]) = some node) :
    Reached tree (here ++ [name])

theorem Reached.dropLast (h : tree.Reached here) : tree.Reached here.dropLast := by
  cases h with
  | root => exact .root
  | child hhere => rwa [List.dropLast_concat]

theorem Reached.isName (h : tree.Reached names) : ∀ name ∈ names, Path.IsName name := by
  induction h with
  | root => simp
  | child hhere hdirectory hname hlength hnode ih =>
    exact List.forall_mem_append.2 ⟨ih, List.forall_mem_singleton.2 hname⟩

theorem Leads.reached {next : List Bytes} (h : tree.Leads here segment next)
    (hhere : tree.Reached here) (hdirectory : tree.isDirectoryAt here = true)
    (hslash : slash ∉ segment) : tree.Reached next := by
  cases h with
  | stays => exact hhere
  | climbs => exact hhere.dropLast
  | descends hleads hdescends hlength hnode =>
    exact .child hhere hdirectory ⟨⟨hslash, hleads⟩, hdescends⟩ hlength hnode

theorem Leads.next_eq {next : List Bytes} (h : tree.Leads here segment next) :
    next = (Path.fold here.reverse segment).reverse := by
  cases h with
  | stays hstays => simp [Path.fold, hstays]
  | climbs hleads hclimbs => simp [Path.fold, hleads, hclimbs, List.tail_reverse]
  | descends hleads hdescends => simp [Path.fold, hleads, hdescends]

theorem reached_of_walk (hhere : tree.Reached here)
    (hslash : ∀ segment ∈ segments, slash ∉ segment)
    (h : tree.walk here segments = .ok names) : tree.Reached names := by
  induction segments generalizing here with
  | nil => exact Except.ok.inj h ▸ hhere
  | cons segment segments ih =>
    obtain ⟨hdirectory, next, hleads, hrest⟩ := walk_cons_iff.1 h
    exact ih (hleads.reached hhere hdirectory (hslash segment List.mem_cons_self))
      (fun s hs => hslash s (List.mem_cons_of_mem segment hs)) hrest

/-- **Where a walk ends is seen from its segments**, for a tree without links. -/
theorem names_of_walk (h : tree.walk here segments = .ok names) :
    names = (segments.foldl Path.fold here.reverse).reverse := by
  induction segments generalizing here with
  | nil => exact (Except.ok.inj h).symm.trans (List.reverse_reverse here).symm
  | cons segment segments ih =>
    obtain ⟨-, next, hleads, hrest⟩ := walk_cons_iff.1 h
    rw [ih hrest, hleads.next_eq, List.reverse_reverse, List.foldl_cons]

theorem walk_of_reached (h : tree.Reached names) (rest : List Bytes) :
    tree.walk [] (names ++ rest) = tree.walk names rest := by
  induction h generalizing rest with
  | root => rfl
  | @child here name node hhere hdirectory hname hlength hnode ih =>
    rw [List.append_assoc, List.singleton_append, ih, walk]
    simp [hdirectory, hname.leads, hname.descends, Nat.not_lt.2 hlength, hnode]

theorem Reached.isDirectoryAt_root (h : tree.Reached names) (hne : names ≠ []) :
    tree.isDirectoryAt [] = true := by
  induction h with
  | root => exact absurd rfl hne
  | @child here name node hhere hdirectory hname hlength hnode ih =>
    cases here with
    | nil => exact hdirectory
    | cons => exact ih (by simp)

/-! ## Paths from the root -/

theorem lookupStart_eq_ok {start : List Bytes} (h : lookupStart directory path = .ok start) :
    nul ∉ path ∧ startOf directory path = .ok start := by
  unfold lookupStart at h
  split at h
  · cases h
  refine ⟨fun hmem => ?_, h⟩
  simp [startOf, hmem] at h

theorem startOf_of_isAbsolute (habsolute : Path.isAbsolute path = true) (hnul : nul ∉ path) :
    startOf directory path = .ok [] := by
  simp [startOf, hnul, habsolute, Path.isEmpty_of_isAbsolute habsolute]

theorem lookup_of_isAbsolute (tree : FileTree) (habsolute : Path.isAbsolute path = true)
    (directory other : Option Bytes) :
    tree.lookup directory path = tree.lookup other path := by
  have hstart : lookupStart directory path = lookupStart other path := by
    simp only [lookupStart, startOf, habsolute, if_true]
  rw [lookup, lookup, resolve, resolve, hstart]

/-- A path from the root leads to its names. -/
theorem reached_of_resolve (habsolute : Path.isAbsolute path = true)
    (h : tree.resolve directory path = .ok names) :
    tree.Reached names ∧ names = Path.names path := by
  unfold resolve at h
  split at h
  · cases h
  rename_i start hstart
  obtain ⟨hnul, hstart⟩ := lookupStart_eq_ok hstart
  rw [startOf_of_isAbsolute habsolute hnul] at hstart
  obtain rfl := Except.ok.inj hstart
  exact ⟨reached_of_walk .root (fun _ => Bytes.not_mem_of_mem_split) h, names_of_walk h⟩

theorem realPath_of_resolve (h : tree.resolve directory path = .ok names) :
    tree.realPath directory path =
      if Path.capacity ≤ (Path.ofNames names).length then .error .nameTooLong
      else .ok (Path.ofNames names) := by
  unfold resolve at h
  split at h
  · cases h
  rename_i start hstart
  simp only [realPath, (lookupStart_eq_ok hstart).2, h]

/-- **A real path leads where it was found.** -/
theorem realPath_ofNames (h : tree.Reached names) (hne : names ≠ [])
    (hnul : nul ∉ Path.ofNames names) (hlength : (Path.ofNames names).length < Path.capacity) :
    tree.realPath directory (Path.ofNames names) = .ok (Path.ofNames names) := by
  have habsolute : Path.isAbsolute (Path.ofNames names) = true :=
    (Path.isAbsolute_rooted : Path.isAbsolute (Path.rooted false names) = true)
  have hsegments : Path.segments (Path.ofNames names) = [] :: names :=
    Path.segments_ofNames (fun n hn => (h.isName n hn).slash_not_mem) hne
  have hwalk : tree.walk [] ([] :: names) = .ok names := by
    refine walk_cons_iff.2 ⟨h.isDirectoryAt_root hne, [], .stays rfl, ?_⟩
    have := walk_of_reached h []
    rwa [List.append_nil] at this
  simp only [realPath, startOf_of_isAbsolute habsolute hnul, hsegments, hwalk,
    Nat.not_le.2 hlength, if_false]

/-! ## Making directories -/

theorem segments_of_fromLast {last : Bytes} {before : List Bytes}
    (h : fromLast path = last :: before) :
    ∃ closing, Path.segments path = before.reverse ++ last :: closing ∧
      ∀ segment ∈ closing, Path.stays segment = true := by
  have hsplit : (Path.segments path).reverse.takeWhile List.isEmpty ++ last :: before =
      (Path.segments path).reverse := by
    rw [← h, fromLast, List.takeWhile_append_dropWhile]
  refine ⟨((Path.segments path).reverse.takeWhile List.isEmpty).reverse, ?_, ?_⟩
  · have hreversed := congrArg List.reverse hsplit
    rw [List.reverse_append, List.reverse_cons, List.reverse_reverse] at hreversed
    rw [List.append_assoc, List.singleton_append] at hreversed
    exact hreversed.symm
  · intro segment hmem
    have hempty : segment.isEmpty = true :=
      List.all_eq_true.1 List.all_takeWhile segment (List.mem_reverse.1 hmem)
    rw [Path.stays, hempty, Bool.true_or]

/-- **A directory that is made is there**, and what there was is kept. -/
theorem makeDirectory_eq_ok (h : before.makeDirectory directory path = .ok after) :
    before.Keeps after ∧ after.isDirectory directory path = true := by
  unfold makeDirectory at h
  split at h
  · cases h
  rename_i start hstart
  split at h
  · cases h
  rename_i last above hlast
  split at h
  · cases h
  rename_i parent hparent
  split_ifs at h with hdirectory hleads hlength hfree
  obtain rfl := Except.ok.inj h
  rw [Bool.not_eq_true, Bool.not_eq_false'] at hdirectory
  rw [Bool.or_eq_true, not_or, Bool.not_eq_true, Bool.not_eq_true] at hleads
  rw [Bool.not_eq_true, Option.isSome_eq_false_iff, Option.isNone_iff_eq_none] at hfree
  have hkeeps : before.Keeps (before.insert (parent ++ [last]) .directory) := keeps_insert hfree
  have hmade : (before.insert (parent ++ [last]) .directory).node? (parent ++ [last]) =
      some .directory := if_pos rfl
  refine ⟨hkeeps, isDirectory_iff.2 (lookup_eq_ok_iff.2 ⟨parent ++ [last], ?_, hmade⟩)⟩
  -- the walk is that to the parent, one step further, and nowhere then
  obtain ⟨closing, hsegments, hclosing⟩ := segments_of_fromLast hlast
  simp only [resolve, hstart, hsegments, walk_append, hkeeps.walk hparent]
  refine walk_cons_iff.2 ⟨hkeeps.isDirectoryAt hdirectory, _,
    .descends hleads.1 hleads.2 (Nat.le_of_not_lt hlength) hmade, ?_⟩
  exact walk_stays (isDirectoryAt_iff.2 hmade) hclosing

theorem ensureDirectory_eq_ok (h : before.ensureDirectory directory path = .ok after) :
    before.Keeps after ∧ after.isDirectory directory path = true := by
  unfold ensureDirectory at h
  split at h
  · rename_i made
    obtain rfl := Except.ok.inj h
    exact makeDirectory_eq_ok made
  · split at h
    · rename_i hdirectory
      obtain rfl := Except.ok.inj h
      exact ⟨.refl _, hdirectory⟩
    · cases h

theorem ensureSteps_eq_ok (root : Bytes) (steps : List Bytes) :
    before.Keeps (before.ensureSteps directory root steps).1 ∧
      ((before.ensureSteps directory root steps).2 = .ok () → steps ≠ [] →
        (before.ensureSteps directory root steps).1.isDirectory directory
          (steps.reverse.foldl Path.push root) = true) := by
  induction steps with
  | nil => exact ⟨.refl before, fun _ hne => absurd rfl hne⟩
  | cons last above ih =>
    rw [ensureSteps]
    split
    · rename_i made
      obtain ⟨hkeeps, hdirectory⟩ := ensureDirectory_eq_ok made
      exact ⟨hkeeps, fun _ _ => hdirectory⟩
    · split
      · rename_i habove
        split
        · rename_i tree error hmade
          rw [hmade] at ih
          exact ⟨ih.1, fun h => by cases h⟩
        · rename_i tree made hmade
          rw [hmade] at ih
          split
          · rename_i made
            obtain ⟨hkeeps, hdirectory⟩ := ensureDirectory_eq_ok made
            exact ⟨ih.1.trans hkeeps, fun _ _ => hdirectory⟩
          · exact ⟨ih.1, fun h => by cases h⟩
      · exact ⟨.refl before, fun h => by cases h⟩

/-- Making directories keeps what there is. -/
theorem ensureAll_keeps (tree : FileTree) (directory : Option Bytes) (path : Bytes) :
    tree.Keeps (tree.ensureAll directory path).1 :=
  (ensureSteps_eq_ok _ _).1

/-- **A directory is there after it was made** with those above it. -/
theorem isDirectory_ensureAll {doubled : Bool} {ss : List Bytes}
    (hss : ∀ s ∈ ss, Path.IsStep s) (hne : ss ≠ [])
    (h : (tree.ensureAll directory (Path.rooted doubled ss)).2 = .ok ()) :
    (tree.ensureAll directory (Path.rooted doubled ss)).1.isDirectory directory
      (Path.rooted doubled ss) = true := by
  have hwhole : ss.foldl Path.push (Path.rooted doubled []) = Path.rooted doubled ss :=
    Path.foldl_push_rooted (by simp) hss
  unfold ensureAll at h ⊢
  simp only [Path.isAbsolute_rooted, if_true, Path.root_rooted hss, Path.steps_rooted hss] at h ⊢
  have hmade := (ensureSteps_eq_ok (Path.rooted doubled []) ss.reverse).2 h (by simpa using hne)
  rwa [List.reverse_reverse, hwhole] at hmade

end

end Bootstrapper.FileTree
