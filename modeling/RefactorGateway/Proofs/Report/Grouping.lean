import Mathlib.Data.List.Basic
import Mathlib.Data.List.Induction
import Mathlib.Data.List.Perm.Basic
import RefactorGateway.Report.Usages
/-!
# Usages by file and line

The report of usages puts them together by file, and each file's usages in the order of their lines.
Both is said here without the loop that groups and without the sort: the files are those that are
seen, each where it is seen first, and the usages of a file come line after line.

## Main Definitions

* `filesSeen`: the files of usages, in the order in which they are first seen
* `usagesIn`, `usagesAt`: the usages in a file, and those at a line of it, as they were received
* `lineByLine`: usages in the order of their lines
* `blocks`: the files of a report with their usages
* `inReportOrder`: usages in the order in which a report shows them

## Main Statements

* `addUsage_groups`, `groupByFile_eq`: what the grouping does at each usage, and so in all
* `byLine_eq_lineByLine`: a stable sort is the only way to put usages in order that keeps what is
  on a line as it was
* `blocks_congr`: what the blocks of a report depend on
* `perm_inReportOrder`, `blocks_inReportOrder`: a report shows what was received, and another report
  of what it shows is the same

## Design Notes

A stable sort is determined by what it leaves on each line, since a list that is in order is made up
of its lines.  So `lineByLine` is a list of pieces of what was received, and all that is to be known
of sorting is in `byLine_eq_lineByLine`.
-/

namespace RefactorGateway.Report

open Bridge

/-! ### Pieces of lists -/

section Pieces

variable {α κ : Type} {keys : List κ} {k : κ} {g : κ → List α}

/-- Of pieces that are all empty but one, this one is all that there is. -/
theorem flatMap_eq_of_mem (distinct : keys.Nodup) (mem : k ∈ keys)
    (others : ∀ k' ∈ keys, k' ≠ k → g k' = []) : keys.flatMap g = g k := by
  obtain ⟨before, behind, rfl⟩ := List.append_of_mem mem
  obtain ⟨-, fresh, apart⟩ := List.nodup_append.1 distinct
  have none_before : before.flatMap g = [] := by
    refine List.flatMap_eq_nil_iff.2 fun k' mem' => others k' ?_ ?_
    · exact List.mem_append_left _ mem'
    · exact apart k' mem' k List.mem_cons_self
  have none_behind : behind.flatMap g = [] := by
    refine List.flatMap_eq_nil_iff.2 fun k' mem' => others k' ?_ ?_
    · exact List.mem_append_right _ (List.mem_cons_of_mem _ mem')
    · exact fun same => (List.nodup_cons.1 fresh).1 (same ▸ mem')
  rw [List.flatMap_append, List.flatMap_cons, none_before, none_behind, List.nil_append,
    List.append_nil]

/-- A list that is in the order of its keys falls apart at each key. -/
theorem filter_lt_append_filter_not_lt {key : α → Nat} {l : List α}
    (sorted : l.Pairwise fun a b => key a ≤ key b) (n : Nat) :
    (l.filter fun a => key a < n) ++ (l.filter fun a => ¬ key a < n) = l := by
  induction l with
  | nil => rfl
  | cons a rest ih =>
    obtain ⟨first, later⟩ := List.pairwise_cons.1 sorted
    by_cases below : key a < n
    · rw [List.filter_cons_of_pos (by simpa using below),
        List.filter_cons_of_neg (by simpa using below), List.cons_append, ih later]
    · -- what follows has no smaller key, so nothing of it belongs in front
      have none_below : rest.filter (fun b => key b < n) = [] := by
        refine List.filter_eq_nil_iff.2 fun b mem => ?_
        have above := first b mem
        simp only [decide_eq_true_eq]
        omega
      have all_above : rest.filter (fun b => ¬ key b < n) = rest := by
        refine List.filter_eq_self.2 fun b mem => ?_
        have above := first b mem
        simp only [decide_not, Bool.not_eq_true', decide_eq_false_iff_not]
        omega
      rw [List.filter_cons_of_neg (by simpa using below),
        List.filter_cons_of_pos (by simpa using below), none_below, all_above, List.nil_append]

/-- A list that is in the order of its keys is made up of the pieces with one key each. -/
theorem eq_flatMap_range {key : α → Nat} {l : List α}
    (sorted : l.Pairwise fun a b => key a ≤ key b) (bound : Nat) (small : ∀ a ∈ l, key a < bound) :
    l = (List.range bound).flatMap fun n => l.filter fun a => key a = n := by
  induction bound generalizing l with
  | zero =>
    cases l with
    | nil => rfl
    | cons a rest => exact absurd (small a List.mem_cons_self) (Nat.not_lt_zero _)
  | succ n ih =>
    have below : ∀ a ∈ l.filter (fun a => key a < n), key a < n :=
      fun a mem => by simpa using (List.mem_filter.1 mem).2
    have last : (l.filter fun a => ¬ key a < n) = l.filter fun a => key a = n := by
      refine List.filter_congr fun a mem => ?_
      have within := small a mem
      simp only [decide_eq_decide]
      omega
    have pieces : (List.range n).flatMap (fun m =>
        (l.filter fun a => key a < n).filter fun a => key a = m) =
        (List.range n).flatMap fun m => l.filter fun a => key a = m := by
      refine List.flatMap_congr fun m mem => ?_
      rw [List.filter_filter]
      refine List.filter_congr fun a _ => ?_
      have within := List.mem_range.1 mem
      rw [Bool.and_eq_left_iff_imp, decide_eq_true_eq, decide_eq_true_eq]
      omega
    rw [List.range_succ, List.flatMap_append, ← pieces, ← ih (sorted.filter _) below,
      List.flatMap_singleton, ← last]
    exact (filter_lt_append_filter_not_lt sorted n).symm

/-- A list is made up of the pieces with one key each, be it in another order. -/
theorem flatMap_filter_perm [DecidableEq κ] {key : α → κ} {l : List α} (distinct : keys.Nodup)
    (covers : ∀ a ∈ l, key a ∈ keys) :
    (keys.flatMap fun k => l.filter fun a => key a = k).Perm l := by
  induction keys generalizing l with
  | nil =>
    cases l with
    | nil => exact .nil
    | cons a rest => exact absurd (covers a List.mem_cons_self) List.not_mem_nil
  | cons k keys ih =>
    obtain ⟨fresh, distinct⟩ := List.nodup_cons.1 distinct
    have later : ∀ a ∈ l.filter (fun a => ¬ key a = k), key a ∈ keys := by
      intro a mem
      obtain ⟨held, differs⟩ := List.mem_filter.1 mem
      exact (List.mem_cons.1 (covers a held)).resolve_left (by simpa using differs)
    have pieces : (keys.flatMap fun k' =>
        (l.filter fun a => ¬ key a = k).filter fun a => key a = k') =
        keys.flatMap fun k' => l.filter fun a => key a = k' := by
      refine List.flatMap_congr fun k' mem => ?_
      rw [List.filter_filter]
      refine List.filter_congr fun a _ => ?_
      rw [Bool.and_eq_left_iff_imp, decide_eq_true_eq, decide_eq_true_eq]
      exact fun same first => fresh (first ▸ same ▸ mem)
    rw [List.flatMap_cons, ← pieces]
    refine ((ih distinct later).append_left _).trans ?_
    simpa only [decide_not] using List.filter_append_perm (fun a => decide (key a = k)) l

end Pieces

/-! ### Files -/

/-- The files of usages, in the order in which they are first seen. -/
def filesSeen (usages : List UsageInfo) : List String := (usages.map UsageInfo.file).eraseDups

/-- The usages in a file, as they were received. -/
def usagesIn (usages : List UsageInfo) (file : String) : List UsageInfo :=
  usages.filter fun u => u.file = file

theorem mem_filesSeen {usages : List UsageInfo} {file : String} :
    file ∈ filesSeen usages ↔ ∃ u ∈ usages, u.file = file := by
  rw [filesSeen, List.mem_eraseDups, List.mem_map]

/-- A usage adds its file behind the others, unless this has been seen. -/
theorem filesSeen_append_singleton (usages : List UsageInfo) (u : UsageInfo) :
    filesSeen (usages ++ [u]) =
      if u.file ∈ filesSeen usages then filesSeen usages else filesSeen usages ++ [u.file] := by
  have known : u.file ∈ filesSeen usages ↔ u.file ∈ usages.map UsageInfo.file := List.mem_eraseDups
  rw [filesSeen, List.map_append, List.eraseDups_append, List.map_singleton, List.removeAll]
  by_cases seen : u.file ∈ filesSeen usages
  · rw [if_pos seen, List.filter_cons_of_neg (by simpa using known.1 seen)]
    exact List.append_nil _
  · rw [if_neg seen, List.filter_cons_of_pos (by simpa using fun h => seen (known.2 h))]
    rfl

theorem nodup_filesSeen (usages : List UsageInfo) : (filesSeen usages).Nodup := by
  induction usages using List.reverseRecOn with
  | nil => exact List.nodup_nil
  | append_singleton usages u ih =>
    rw [filesSeen_append_singleton]
    split
    · exact ih
    · next fresh =>
      refine List.nodup_append.2 ⟨ih, List.pairwise_singleton _ _, fun file mem other last => ?_⟩
      rw [List.mem_singleton.1 last]
      exact fun same => fresh (same ▸ mem)

theorem usagesIn_append_singleton (usages : List UsageInfo) (u : UsageInfo) (file : String) :
    usagesIn (usages ++ [u]) file =
      if u.file = file then usagesIn usages file ++ [u] else usagesIn usages file := by
  rw [usagesIn, List.filter_append]
  by_cases same : u.file = file
  · rw [if_pos same, List.filter_cons_of_pos (by simpa using same)]
    rfl
  · rw [if_neg same, List.filter_cons_of_neg (by simpa using same)]
    exact List.append_nil _

theorem usagesIn_eq_nil_iff {usages : List UsageInfo} {file : String} :
    usagesIn usages file = [] ↔ file ∉ filesSeen usages := by
  rw [mem_filesSeen, usagesIn, List.filter_eq_nil_iff]
  simp

/-- **What the grouping does at a usage.**  If its file has a group, the usage comes at the end of
it; else it comes behind all groups in a group of its own. -/
theorem addUsage_groups (u : UsageInfo) {files : List String} (distinct : files.Nodup)
    (group : String → List UsageInfo) :
    addUsage u (files.map fun file => (file, group file)) =
      if u.file ∈ files then
        files.map fun file => (file, if u.file = file then group file ++ [u] else group file)
      else files.map (fun file => (file, group file)) ++ [(u.file, [u])] := by
  induction files with
  | nil => rfl
  | cons file files ih =>
    obtain ⟨fresh, distinct⟩ := List.nodup_cons.1 distinct
    rw [List.map_cons, addUsage]
    by_cases first : file = u.file
    · -- the file has no second group, so the others stay as they are
      have others : files.map (fun other =>
          (other, if u.file = other then group other ++ [u] else group other)) =
          files.map fun other => (other, group other) := by
        refine List.map_congr_left fun other mem => ?_
        rw [if_neg fun same => fresh (first.trans same ▸ mem)]
      rw [if_pos first, if_pos (first ▸ List.mem_cons_self), List.map_cons, others,
        if_pos first.symm]
    · have later : u.file ∈ file :: files ↔ u.file ∈ files :=
        List.mem_cons.trans (or_iff_right fun same => first same.symm)
      rw [if_neg first, ih distinct]
      by_cases mem : u.file ∈ files
      · rw [if_pos mem, if_pos (later.2 mem), List.map_cons, if_neg fun same => first same.symm]
      · rw [if_neg mem, if_neg fun h => mem (later.1 h), List.cons_append]

/-- The groups are the files as they are first seen, each with all usages in it. -/
theorem groupByFile_eq (usages : List UsageInfo) :
    groupByFile usages = (filesSeen usages).map fun file => (file, usagesIn usages file) := by
  induction usages using List.reverseRecOn with
  | nil => rfl
  | append_singleton usages u ih =>
    have step : groupByFile (usages ++ [u]) = addUsage u (groupByFile usages) := by
      rw [groupByFile, List.foldl_append]
      rfl
    rw [step, ih, addUsage_groups u (nodup_filesSeen usages), filesSeen_append_singleton]
    simp only [usagesIn_append_singleton]
    by_cases seen : u.file ∈ filesSeen usages
    · rw [if_pos seen, if_pos seen]
    · -- no other group changes, and the new one has this usage only
      have others : (filesSeen usages).map (fun file =>
          (file, if u.file = file then usagesIn usages file ++ [u] else usagesIn usages file)) =
          (filesSeen usages).map fun file => (file, usagesIn usages file) := by
        refine List.map_congr_left fun file mem => ?_
        rw [if_neg fun same : u.file = file => seen (same ▸ mem)]
      rw [if_neg seen, if_neg seen, List.map_append, others, List.map_singleton, if_pos rfl,
        usagesIn_eq_nil_iff.2 seen, List.nil_append]

/-! ### Lines -/

/-- The usages at a line of a file, as they were received. -/
def usagesAt (usages : List UsageInfo) (file : String) (line : UInt32) : List UsageInfo :=
  usages.filter fun u => u.file = file ∧ u.line = line

/-- The numbers that lines can have, in ascending order. -/
@[irreducible]
def lineNumbers : List Nat := List.range UInt32.size

theorem lineNumbers_eq : lineNumbers = List.range UInt32.size := by
  unfold lineNumbers
  rfl

/-- Usages in the order of their lines: line after line, and those on one line as they were
received. -/
def lineByLine (usages : List UsageInfo) : List UsageInfo :=
  lineNumbers.flatMap fun n => usages.filter fun u => u.line.toNat = n

theorem byLine_perm (usages : List UsageInfo) : (byLine usages).Perm usages :=
  List.mergeSort_perm usages _

private theorem line_le_trans (u v w : UsageInfo) (below : decide (u.line ≤ v.line) = true)
    (above : decide (v.line ≤ w.line) = true) : decide (u.line ≤ w.line) = true := by
  rw [decide_eq_true_eq] at *
  exact UInt32.le_trans below above

private theorem line_le_total (u v : UsageInfo) :
    (decide (u.line ≤ v.line) || decide (v.line ≤ u.line)) = true := by
  rw [Bool.or_eq_true, decide_eq_true_eq, decide_eq_true_eq]
  exact UInt32.le_total u.line v.line

theorem pairwise_byLine (usages : List UsageInfo) :
    (byLine usages).Pairwise fun u v => u.line.toNat ≤ v.line.toNat := by
  have sorted := List.pairwise_mergeSort line_le_trans line_le_total usages
  exact sorted.imp fun below => UInt32.le_iff_toNat_le.1 (of_decide_eq_true below)

/-- Sorting leaves the usages on one line as they were. -/
theorem filter_byLine (usages : List UsageInfo) (n : Nat) :
    (byLine usages).filter (fun u => u.line.toNat = n) =
      usages.filter fun u => u.line.toNat = n := by
  -- what is on one line is in order already, so a stable sort does not take it apart
  have level : (usages.filter fun u => u.line.toNat = n).Pairwise
      fun u v => decide (u.line ≤ v.line) = true := by
    refine List.pairwise_of_forall_mem_list fun u mem v mem' => ?_
    have here : u.line.toNat = n := of_decide_eq_true (List.mem_filter.1 mem).2
    have there : v.line.toNat = n := of_decide_eq_true (List.mem_filter.1 mem').2
    exact decide_eq_true (UInt32.le_iff_toNat_le.2 (Nat.le_of_eq (here.trans there.symm)))
  have kept : (usages.filter fun u => u.line.toNat = n).Sublist (byLine usages) :=
    List.sublist_mergeSort line_le_trans line_le_total level List.filter_sublist
  have within := kept.filter fun u => u.line.toNat = n
  rw [List.filter_filter] at within
  simp only [Bool.and_self] at within
  have length := ((byLine_perm usages).filter fun u => u.line.toNat = n).length_eq
  exact (within.eq_of_length length.symm).symm

/-- **Sorting by line.**  What is in order and has on each line what was received is this list. -/
theorem byLine_eq_lineByLine (usages : List UsageInfo) : byLine usages = lineByLine usages := by
  have pieces := eq_flatMap_range (pairwise_byLine usages) UInt32.size fun u _ => u.line.toNat_lt
  rw [← lineNumbers_eq] at pieces
  calc byLine usages
      = lineNumbers.flatMap fun n => (byLine usages).filter fun u => u.line.toNat = n := pieces
    _ = lineByLine usages := List.flatMap_congr fun n _ => filter_byLine usages n

theorem lineByLine_perm (usages : List UsageInfo) : (lineByLine usages).Perm usages :=
  byLine_eq_lineByLine usages ▸ byLine_perm usages

/-- Line after line, each line has what was received on it. -/
theorem filter_line_lineByLine (usages : List UsageInfo) (line : UInt32) :
    (lineByLine usages).filter (fun u => u.line = line) = usages.filter fun u => u.line = line := by
  simp only [← UInt32.toNat_inj]
  rw [← byLine_eq_lineByLine, filter_byLine]

/-- Usages come in the same order of lines if they agree on each line. -/
theorem lineByLine_congr {usages usages' : List UsageInfo}
    (same : ∀ line : UInt32, (usages.filter fun u => u.line = line) =
      usages'.filter fun u => u.line = line) : lineByLine usages = lineByLine usages' := by
  refine List.flatMap_congr fun n mem => ?_
  rw [lineNumbers_eq, List.mem_range] at mem
  have line : (UInt32.ofNat n).toNat = n := UInt32.toNat_ofNat_of_lt' mem
  have each := same (UInt32.ofNat n)
  simpa only [← UInt32.toNat_inj, line] using each

/-! ### Reports -/

/-- The files of a report, each with the usages that are shown of it. -/
def blocks (usages : List UsageInfo) : List (String × List UsageInfo) :=
  (filesSeen usages).map fun file => (file, lineByLine (usagesIn usages file))

/-- Usages in the order in which a report shows them. -/
def inReportOrder (usages : List UsageInfo) : List UsageInfo :=
  (blocks usages).flatMap Prod.snd

theorem inReportOrder_eq (usages : List UsageInfo) :
    inReportOrder usages =
      (filesSeen usages).flatMap fun file => lineByLine (usagesIn usages file) := by
  rw [inReportOrder, blocks, List.flatMap_map]

/-- The groups, with the usages of each by line, are the blocks. -/
theorem groupByFile_byLine (usages : List UsageInfo) :
    (groupByFile usages).map (fun group => (group.1, byLine group.2)) = blocks usages := by
  rw [groupByFile_eq, List.map_map, blocks]
  refine List.map_congr_left fun file _ => ?_
  exact congrArg (Prod.mk file) (byLine_eq_lineByLine _)

theorem map_fst_blocks (usages : List UsageInfo) :
    (blocks usages).map Prod.fst = filesSeen usages := by
  rw [blocks, List.map_map]
  exact List.map_id _

theorem file_eq_of_mem_lineByLine {usages : List UsageInfo} {file : String} {u : UsageInfo}
    (mem : u ∈ lineByLine (usagesIn usages file)) : u.file = file :=
  of_decide_eq_true (List.mem_filter.1 ((lineByLine_perm _).mem_iff.1 mem)).2

/-- What a report shows is what was received. -/
theorem perm_inReportOrder (usages : List UsageInfo) : (inReportOrder usages).Perm usages := by
  have each : (inReportOrder usages).Perm ((filesSeen usages).flatMap (usagesIn usages)) := by
    rw [inReportOrder_eq]
    exact List.Perm.flatMap_left _ fun file _ => lineByLine_perm (usagesIn usages file)
  refine each.trans (flatMap_filter_perm (nodup_filesSeen usages) fun u mem => ?_)
  exact mem_filesSeen.2 ⟨u, mem, rfl⟩

theorem filter_line_usagesIn (usages : List UsageInfo) (file : String) (line : UInt32) :
    (usagesIn usages file).filter (fun u => u.line = line) = usagesAt usages file line := by
  rw [usagesIn, usagesAt, List.filter_filter]
  refine List.filter_congr fun u _ => ?_
  rw [Bool.decide_and, Bool.and_comm]

/-- The blocks of a report depend on the order in which files are first seen, and on what is at each
line of them. -/
theorem blocks_congr {usages usages' : List UsageInfo}
    (files : filesSeen usages = filesSeen usages')
    (lines : ∀ file line, usagesAt usages file line = usagesAt usages' file line) :
    blocks usages = blocks usages' := by
  rw [blocks, blocks, ← files]
  refine List.map_congr_left fun file _ => congrArg (Prod.mk file) ?_
  refine lineByLine_congr fun line => ?_
  rw [filter_line_usagesIn, filter_line_usagesIn, lines]

/-- A block of one file that has not been seen adds this file. -/
theorem filesSeen_append_block {usages block : List UsageInfo} {file : String}
    (fresh : file ∉ filesSeen usages) (one : ∀ u ∈ block, u.file = file) (some : block ≠ []) :
    filesSeen (usages ++ block) = filesSeen usages ++ [file] := by
  induction block using List.reverseRecOn with
  | nil => exact absurd rfl some
  | append_singleton block u ih =>
    have last : u.file = file := one u (List.mem_append_right _ (List.mem_singleton_self u))
    rw [← List.append_assoc, filesSeen_append_singleton, last]
    by_cases first : block = []
    · rw [first, List.append_nil, if_neg fresh]
    · have seen := ih (fun v mem => one v (List.mem_append_left _ mem)) first
      rw [seen, if_pos (List.mem_append_right _ (List.mem_singleton_self file))]

/-- Of blocks of one file each, the files are seen in the order of the blocks. -/
theorem filesSeen_flatMap {files : List String} {block : String → List UsageInfo}
    (distinct : files.Nodup) (one : ∀ file ∈ files, ∀ u ∈ block file, u.file = file)
    (some : ∀ file ∈ files, block file ≠ []) : filesSeen (files.flatMap block) = files := by
  induction files using List.reverseRecOn with
  | nil => rfl
  | append_singleton files file ih =>
    obtain ⟨distinct, -, apart⟩ := List.nodup_append.1 distinct
    have earlier := ih distinct (fun f mem => one f (List.mem_append_left _ mem))
      (fun f mem => some f (List.mem_append_left _ mem))
    have last : file ∈ files ++ [file] := List.mem_append_right _ (List.mem_singleton_self file)
    have fresh : file ∉ files := fun mem => apart file mem file (List.mem_singleton_self file) rfl
    rw [List.flatMap_append, List.flatMap_singleton,
      filesSeen_append_block (earlier.symm ▸ fresh) (one file last) (some file last), earlier]

theorem filesSeen_inReportOrder (usages : List UsageInfo) :
    filesSeen (inReportOrder usages) = filesSeen usages := by
  rw [inReportOrder_eq]
  refine filesSeen_flatMap (nodup_filesSeen usages) (fun file _ u => file_eq_of_mem_lineByLine) ?_
  intro file seen empty
  have none_in : usagesIn usages file = [] :=
    (empty ▸ lineByLine_perm (usagesIn usages file)).symm.eq_nil
  exact usagesIn_eq_nil_iff.1 none_in seen

/-- In the order of a report, the usages in a file are those of its block. -/
theorem usagesIn_inReportOrder (usages : List UsageInfo) (file : String) :
    usagesIn (inReportOrder usages) file = lineByLine (usagesIn usages file) := by
  by_cases seen : file ∈ filesSeen usages
  · have own : usagesIn (lineByLine (usagesIn usages file)) file =
        lineByLine (usagesIn usages file) :=
      List.filter_eq_self.2 fun u mem => decide_eq_true (file_eq_of_mem_lineByLine mem)
    have others : ∀ other ∈ filesSeen usages, other ≠ file →
        usagesIn (lineByLine (usagesIn usages other)) file = [] := by
      refine fun other _ differs => List.filter_eq_nil_iff.2 fun u mem same => differs ?_
      exact (file_eq_of_mem_lineByLine mem).symm.trans (of_decide_eq_true same)
    have only := flatMap_eq_of_mem (nodup_filesSeen usages) seen others
    rw [inReportOrder_eq, usagesIn, List.filter_flatMap]
    exact only.trans own
  · have none_shown : usagesIn (inReportOrder usages) file = [] := by
      rw [usagesIn_eq_nil_iff, filesSeen_inReportOrder]
      exact seen
    have none_in := usagesIn_eq_nil_iff.2 seen
    rw [none_shown, none_in]
    exact (lineByLine_perm []).eq_nil.symm

/-- What a report shows is shown in the same order again. -/
theorem blocks_inReportOrder (usages : List UsageInfo) :
    blocks (inReportOrder usages) = blocks usages := by
  refine blocks_congr (filesSeen_inReportOrder usages) fun file line => ?_
  rw [← filter_line_usagesIn, usagesIn_inReportOrder, filter_line_lineByLine,
    filter_line_usagesIn]

end RefactorGateway.Report
