import RefactorGateway.Proofs.Report.Grouping
import RefactorGateway.Proofs.Report.Lines
/-!
# The report of usages

The report of a search for usages is a heading and a block for each file, and it shows each usage
once, under its file and in the order of lines.  So it depends on little of the order in which the
usages were received.

## Main Definitions

* `usagesText`: the text of a report, put together from its blocks
* `blockLines`: the lines of a block

## Main Statements

* `findUsages_eq`: the report of a search is the text of its blocks
* `findUsages_complete`: what a report shows
* `findUsages_canonical`: what a report depends on
-/

namespace RefactorGateway.Report

open Bridge

/-! ### The text of a report -/

/-- A usage as it is shown: where it is, and what stands there. -/
def usageText (u : UsageInfo) : String :=
  "\n" ++ "  " ++ (if u.isWriteAccess then "📝" else "👁️") ++ " " ++ u.file ++ ":"
    ++ toString u.line.toNat ++ ":" ++ toString u.column.toNat
    ++ "\n" ++ "     " ++ contextLine u.text

/-- The line above the usages in a file. -/
def fileHeader (file : String) : String := "📄 " ++ file ++ ":"

/-- A file with its usages, and an empty line behind them. -/
def blockText (block : String × List UsageInfo) : String :=
  "\n" ++ fileHeader block.1 ++ String.join (block.2.map usageText) ++ "\n"

/-- The text of a report: a heading, an empty line, and the blocks. -/
def usagesText (symbol : String) (total : UInt32) (blocks : List (String × List UsageInfo)) :
    String :=
  "Usages of '" ++ symbol ++ "': " ++ toString total.toNat ++ " found"
    ++ "\n" ++ String.join (blocks.map blockText)

theorem below_usageLines (u : UsageInfo) : below (usageLines u) = usageText u := by
  unfold usageLines usageText usageMark placeText
  rw [below_cons, below_cons, below_nil]
  simp only [String.append_assoc, String.append_empty]

/-- The lines of a file and of the usages in it. -/
def blockLines (block : String × List UsageInfo) : List String :=
  fileHeader block.1 :: (block.2.flatMap usageLines ++ [""])

/-- The groups, each with its usages by line, are shown as the blocks. -/
theorem flatMap_fileBlock (usages : List UsageInfo) :
    (groupByFile usages).flatMap fileBlock = (blocks usages).flatMap blockLines := by
  rw [← groupByFile_byLine, List.flatMap_map]
  rfl

theorem below_blockLines (block : String × List UsageInfo) :
    below (blockLines block) = blockText block := by
  rw [blockLines, below_cons, below_append, below_flatMap, below_cons, below_nil, blockText]
  simp only [below_usageLines, String.append_assoc, String.append_empty]

theorem findUsages_eq (r : FindUsagesResponse) :
    findUsages r = usagesText r.symbol r.totalCount (blocks r.usages) := by
  have shown : below ((groupByFile r.usages).flatMap fileBlock) =
      String.join ((blocks r.usages).map blockText) := by
    rw [flatMap_fileBlock, below_flatMap]
    exact congrArg String.join (List.map_congr_left fun block _ => below_blockLines block)
  unfold findUsages usagesText
  rw [List.cons_append, joinLines_cons, List.cons_append, List.nil_append, below_cons, shown]
  simp only [String.append_assoc, String.append_empty]

theorem fileHeader_injective {file file' : String} (same : fileHeader file = fileHeader file') :
    file = file' := by
  unfold fileHeader at same
  exact String.append_right_inj _ |>.1 (String.append_left_inj _ |>.1 same)

/-- **The report of usages.**  Whatever the usages are, the report is the heading with the symbol
and the number as they were received, and a block for each file in the order in which the files are
first seen.  A block has the usages in its file and no others, in ascending order of lines, and on
each line as they were received.  So the report shows each usage as often as it was received, and no
file twice. -/
theorem findUsages_complete (r : FindUsagesResponse) :
    findUsages r = usagesText r.symbol r.totalCount (blocks r.usages) ∧
      (blocks r.usages).map Prod.fst = (r.usages.map UsageInfo.file).eraseDups ∧
      (∀ block ∈ blocks r.usages,
        block.2.Perm (r.usages.filter fun u => u.file = block.1) ∧
          block.2.Pairwise (fun u v => u.line ≤ v.line) ∧
          ∀ line, (block.2.filter fun u => u.line = line) =
            r.usages.filter fun u => u.file = block.1 ∧ u.line = line) ∧
      ((blocks r.usages).flatMap Prod.snd).Perm r.usages ∧
      ((blocks r.usages).map fun block => fileHeader block.1).Nodup := by
  refine ⟨findUsages_eq r, map_fst_blocks r.usages, fun block mem => ?_,
    perm_inReportOrder r.usages, ?_⟩
  · obtain ⟨file, -, rfl⟩ := List.mem_map.1 mem
    refine ⟨lineByLine_perm _, ?_, fun line => ?_⟩
    · have sorted := pairwise_byLine (usagesIn r.usages file)
      rw [byLine_eq_lineByLine] at sorted
      exact sorted.imp UInt32.le_iff_toNat_le.2
    · exact (filter_line_lineByLine _ line).trans (filter_line_usagesIn r.usages file line)
  · have headers : (blocks r.usages).map (fun block => fileHeader block.1) =
        (filesSeen r.usages).map fileHeader := by
      rw [← map_fst_blocks, List.map_map]
      rfl
    rw [headers]
    refine List.pairwise_map.2 ((nodup_filesSeen r.usages).imp ?_)
    intro file file' differs same
    exact differs (fileHeader_injective same)

/-- **What the report of usages depends on.**  Two responses have the same report if they have the
same symbol and number, if their usages show the files in the same order, and if on each line of
each file they have the same usages in the same order.  In particular, the usages in the order in
which a report shows them have the same report. -/
theorem findUsages_canonical :
    (∀ r r' : FindUsagesResponse, r.symbol = r'.symbol → r.totalCount = r'.totalCount →
      (r.usages.map UsageInfo.file).eraseDups = (r'.usages.map UsageInfo.file).eraseDups →
      (∀ (file : String) (line : UInt32),
        (r.usages.filter fun u => u.file = file ∧ u.line = line) =
          r'.usages.filter fun u => u.file = file ∧ u.line = line) →
      findUsages r = findUsages r') ∧
      ∀ r : FindUsagesResponse,
        findUsages { r with usages := inReportOrder r.usages } = findUsages r := by
  constructor
  · intro r r' symbol total files lines
    have same : blocks r.usages = blocks r'.usages := blocks_congr files lines
    rw [findUsages_eq, findUsages_eq, symbol, total, same]
  · intro r
    rw [findUsages_eq, findUsages_eq, blocks_inReportOrder]

/-- Usages in two files that come mixed up, two of them on one line. -/
theorem findUsages_interleaved :
    let usage (file : String) (line column : UInt32) : UsageInfo := ⟨file, line, column, "x", false⟩
    let mixed : FindUsagesResponse := ⟨true, "x",
      [usage "b.py" 5 9, usage "a.py" 2 1, usage "b.py" 1 4, usage "b.py" 5 1], 4⟩
    let tidy : FindUsagesResponse := ⟨true, "x",
      [usage "b.py" 1 4, usage "b.py" 5 9, usage "b.py" 5 1, usage "a.py" 2 1], 4⟩
    (mixed.usages.map UsageInfo.file).eraseDups = (tidy.usages.map UsageInfo.file).eraseDups ∧
      (∀ (file : String) (line : UInt32),
        (mixed.usages.filter fun u => u.file = file ∧ u.line = line) =
          tidy.usages.filter fun u => u.file = file ∧ u.line = line) ∧
      mixed.usages ≠ tidy.usages ∧ findUsages mixed = findUsages tidy := by
  intro usage mixed tidy
  have files : (mixed.usages.map UsageInfo.file).eraseDups =
      (tidy.usages.map UsageInfo.file).eraseDups := by decide
  have lines : ∀ (file : String) (line : UInt32),
      (mixed.usages.filter fun u => u.file = file ∧ u.line = line) =
        tidy.usages.filter fun u => u.file = file ∧ u.line = line := by
    intro file line
    -- only the usage of line 1 has moved, and it is alone on its line
    simp only [mixed, tidy, usage, List.filter_cons]
    grind
  exact ⟨files, lines, by decide, findUsages_canonical.1 mixed tidy rfl rfl files lines⟩

end RefactorGateway.Report
