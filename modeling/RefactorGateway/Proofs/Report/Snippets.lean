import RefactorGateway.Proofs.Report.Usages
/-!
# Snippets in reports

A usage comes with a snippet of source text, which may be anything: long, of many lines, or made to
look like lines of a report.  What is shown of it is one line in its own place, so that the lines of
a report can be counted without the snippets.

## Main Definitions

* `markerLine`: where a usage is, and whether it writes the symbol
* `blockedLines`: the lines of the report of a refused deletion

## Main Statements

* `linesOf_findUsages`, `linesOf_safeDelete`: the lines of the two reports that show snippets
* `snippets_keep_layout`: how many lines they have, and which
-/

namespace RefactorGateway.Report

open Bridge

/-! ### The report of usages -/

theorem length_usageLines (u : UsageInfo) : (usageLines u).length = 2 := rfl

theorem length_flatMap_blockLines (groups : List (String × List UsageInfo)) :
    (groups.flatMap blockLines).length =
      2 * groups.length + 2 * (groups.flatMap Prod.snd).length := by
  induction groups with
  | nil => rfl
  | cons group rest ih =>
    have own : (blockLines group).length = 2 + 2 * group.2.length := by
      rw [blockLines, List.length_cons, List.length_append,
        length_flatMap_of_forall length_usageLines, List.length_singleton]
      omega
    rw [List.flatMap_cons, List.flatMap_cons, List.length_append, List.length_append, own, ih,
      List.length_cons]
    omega

theorem mem_of_mem_blocks {usages : List UsageInfo} {block : String × List UsageInfo}
    (mem : block ∈ blocks usages) :
    (∃ u ∈ usages, u.file = block.1) ∧ ∀ u ∈ block.2, u ∈ usages := by
  obtain ⟨file, seen, rfl⟩ := List.mem_map.1 mem
  refine ⟨mem_filesSeen.1 seen, fun u shown => ?_⟩
  exact List.mem_of_mem_filter ((lineByLine_perm _).mem_iff.1 shown)

theorem singleLine_blockLines {usages : List UsageInfo} (single : ∀ u ∈ usages, SingleLine u.file)
    {block : String × List UsageInfo} (mem : block ∈ blocks usages) :
    ∀ line ∈ blockLines block, SingleLine line := by
  obtain ⟨⟨first, held, same⟩, all⟩ := mem_of_mem_blocks mem
  have file : SingleLine block.1 := same ▸ single first held
  refine List.forall_mem_cons.2 ⟨?_, List.forall_mem_append.2 ⟨?_, ?_⟩⟩
  · exact ((by decide : SingleLine "📄 ").append file).append (by decide)
  · intro line shown
    obtain ⟨u, within, shown⟩ := List.mem_flatMap.1 shown
    exact singleLine_usageLines (single u (all u within)) line shown
  · exact List.forall_mem_singleton.2 (by decide)

/-- The lines of the report of usages: a heading, an empty line, and those of its blocks. -/
theorem linesOf_findUsages {r : FindUsagesResponse} (symbol : SingleLine r.symbol)
    (files : ∀ u ∈ r.usages, SingleLine u.file) :
    linesOf (findUsages r) =
      ("Usages of '" ++ r.symbol ++ "': " ++ toString r.totalCount.toNat ++ " found") :: ""
        :: (blocks r.usages).flatMap blockLines := by
  have heading : SingleLine
      ("Usages of '" ++ r.symbol ++ "': " ++ toString r.totalCount.toNat ++ " found") := by
    have opening : SingleLine "Usages of '" := by decide
    have middle : SingleLine "': " := by decide
    exact (((opening.append symbol).append middle).append (singleLine_number _)).append (by decide)
  rw [findUsages, flatMap_fileBlock, List.cons_append, List.cons_append, List.nil_append,
    linesOf_joinLines_cons, heading.linesOf, List.singleton_append]
  refine List.forall_mem_cons.2 ⟨by decide, fun line mem => ?_⟩
  obtain ⟨block, shown, mem⟩ := List.mem_flatMap.1 mem
  exact singleLine_blockLines files shown line mem

/-! ### The report of a refused deletion -/

/-- Where a usage is, and whether it writes the symbol. -/
def markerLine (u : UsageInfo) : String :=
  "  " ++ (if u.isWriteAccess then "📝" else "👁️") ++ " " ++ u.file ++ ":"
    ++ toString u.line.toNat ++ ":" ++ toString u.column.toNat

/-- A usage that stands against a deletion, and an empty line behind it. -/
def blockingEntry (u : UsageInfo) : List String :=
  [markerLine u, "     " ++ contextLine u.text, ""]

/-- The lines of the report of a refused deletion: the number of usages that the bridge gives, the
first fifteen usages in their order, how many more there are, and what to do. -/
def blockedLines (found : UInt32) (usages : List UsageInfo) : List String :=
  ["Cannot delete: " ++ toString found.toNat ++ " usage(s) found:", ""]
    ++ shownLines 15 blockingEntry usages
    ++ ["", "Remove or update these usages before deleting."]

theorem length_blockingEntry (u : UsageInfo) : (blockingEntry u).length = 3 := rfl

theorem blockingEntry_eq : blockingEntry = fun u => usageLines u ++ [""] := by
  funext u
  rw [blockingEntry, markerLine, usageLines, placeText, usageMark]
  simp only [String.append_assoc]
  rfl

theorem blockingLines_eq (usages : List UsageInfo) :
    blockingLines usages = shownLines 15 blockingEntry usages := by
  rw [blockingEntry_eq]
  rfl

theorem safeDelete_of_not_deleted {r : SafeDeleteResponse} (blocked : r.deleted = false) :
    safeDelete r = joinLines (blockedLines r.usagesFound (r.usages.getD [])) := by
  rw [safeDelete, if_neg (by simp [blocked]), blockingLines_eq]
  rfl

theorem singleLine_blockingEntry {u : UsageInfo} (file : SingleLine u.file) :
    ∀ line ∈ blockingEntry u, SingleLine line := by
  rw [blockingEntry_eq]
  refine List.forall_mem_append.2 ⟨singleLine_usageLines file, ?_⟩
  exact List.forall_mem_singleton.2 (by decide)

theorem singleLine_blockedLines {usages : List UsageInfo}
    (files : ∀ u ∈ usages, SingleLine u.file) (found : UInt32) :
    ∀ line ∈ blockedLines found usages, SingleLine line := by
  have heading : SingleLine ("Cannot delete: " ++ toString found.toNat ++ " usage(s) found:") :=
    ((by decide : SingleLine "Cannot delete: ").append (singleLine_number _)).append (by decide)
  refine List.forall_mem_append.2 ⟨List.forall_mem_append.2 ⟨?_, ?_⟩, by decide⟩
  · exact List.forall_mem_cons.2 ⟨heading, by decide⟩
  · exact singleLine_shownLines (fun u mem => singleLine_blockingEntry (files u mem)) 15

theorem linesOf_safeDelete {r : SafeDeleteResponse} (blocked : r.deleted = false)
    (files : ∀ u ∈ r.usages.getD [], SingleLine u.file) :
    linesOf (safeDelete r) = blockedLines r.usagesFound (r.usages.getD []) := by
  have single := singleLine_blockedLines files r.usagesFound
  obtain ⟨first, rest⟩ := List.forall_mem_cons.1 single
  rw [safeDelete_of_not_deleted blocked]
  show linesOf (joinLines (_ :: _)) = _
  rw [linesOf_joinLines_cons _ rest, first.linesOf]
  rfl

theorem length_blockedLines (found : UInt32) (usages : List UsageInfo) :
    (blockedLines found usages).length =
      4 + 3 * min usages.length 15 + if 15 < usages.length then 1 else 0 := by
  simp only [blockedLines, List.length_append, length_shownLines length_blockingEntry,
    List.length_cons, List.length_nil]
  omega

/-- **Snippets keep to their place.**  Whatever the snippets are: the report of usages has two lines
at its beginning, two for each file and two for each usage, as long as the names in it have no
newline; the report of a refused deletion has, as long as the names of files have none, exactly the
lines that are to be there; and the report of a deletion that was carried out is one line. -/
theorem snippets_keep_layout :
    (∀ r : FindUsagesResponse, SingleLine r.symbol → (∀ u ∈ r.usages, SingleLine u.file) →
      (linesOf (findUsages r)).length =
        2 + 2 * (r.usages.map UsageInfo.file).eraseDups.length + 2 * r.usages.length) ∧
      (∀ r : SafeDeleteResponse, r.deleted = false →
        (∀ u ∈ r.usages.getD [], SingleLine u.file) →
        linesOf (safeDelete r) = blockedLines r.usagesFound (r.usages.getD []) ∧
          (linesOf (safeDelete r)).length = 4 + 3 * min (r.usages.getD []).length 15
            + if 15 < (r.usages.getD []).length then 1 else 0) ∧
      ∀ r : SafeDeleteResponse, r.deleted = true →
        linesOf (safeDelete r) = ["Successfully deleted element (no usages found)."] := by
  refine ⟨fun r symbol files => ?_, fun r blocked files => ?_, fun r gone => ?_⟩
  · have files_shown : (blocks r.usages).length = (r.usages.map UsageInfo.file).eraseDups.length := by
      rw [← List.length_map, map_fst_blocks, filesSeen]
    have usages_shown : ((blocks r.usages).flatMap Prod.snd).length = r.usages.length :=
      (perm_inReportOrder r.usages).length_eq
    rw [linesOf_findUsages symbol files, List.length_cons, List.length_cons,
      length_flatMap_blockLines, files_shown, usages_shown]
    omega
  · rw [linesOf_safeDelete blocked files, length_blockedLines]
    exact ⟨rfl, rfl⟩
  · rw [safeDelete, if_pos gone]
    exact SingleLine.linesOf (by decide)

/-- A snippet that would forge a line, and a deletion that one usage more than are shown stands
against. -/
theorem snippets_keep_layout_forged :
    let u : UsageInfo := ⟨"a.py", 3, 1, "  x = 1\n  • forged.py:1", true⟩
    let search : FindUsagesResponse := ⟨true, "x", [u, u], 2⟩
    let refused : SafeDeleteResponse := ⟨true, false, 16, some (List.replicate 16 u)⟩
    let gone : SafeDeleteResponse := ⟨true, true, 0, some [u]⟩
    SingleLine search.symbol ∧ (∀ v ∈ search.usages, SingleLine v.file) ∧
      (linesOf (findUsages search)).length = 8 ∧
      refused.deleted = false ∧ (∀ v ∈ refused.usages.getD [], SingleLine v.file) ∧
      (linesOf (safeDelete refused)).length = 50 ∧
      gone.deleted = true ∧
      linesOf (safeDelete gone) = ["Successfully deleted element (no usages found)."] := by
  intro u search refused gone
  have symbol : SingleLine search.symbol := by decide
  have searched : ∀ v ∈ search.usages, SingleLine v.file := by decide
  have blocking : ∀ v ∈ refused.usages.getD [], SingleLine v.file := by decide
  obtain ⟨found, blocked, deleted⟩ := snippets_keep_layout
  exact ⟨symbol, searched, found search symbol searched, rfl, blocking,
    (blocked refused rfl blocking).2, rfl, deleted gone rfl⟩

end RefactorGateway.Report
