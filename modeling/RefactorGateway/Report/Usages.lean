import RefactorGateway.Bridge.Response
import RefactorGateway.Report.Layout
/-!
# Reports of usages

What a caller is told about the usages of a symbol, and about a deletion that they stood against.

## Main Definitions

- `groupByFile`: usages put together by file
- `findUsages`: the usages of a symbol
- `safeDelete`: the outcome of a deletion

## Design Notes

Files come in the order in which they are first seen and each only once; within a file usages go by
line, and those of one line keep their order.
-/

namespace RefactorGateway.Report

open Bridge

/-- Put a usage at the end of the group of its file, or open a group for it behind the others. -/
def addUsage (u : UsageInfo) : List (String × List UsageInfo) → List (String × List UsageInfo)
  | [] => [(u.file, [u])]
  | (file, group) :: rest =>
    if file = u.file then (file, group ++ [u]) :: rest else (file, group) :: addUsage u rest

/-- The usages put together by file. -/
def groupByFile (usages : List UsageInfo) : List (String × List UsageInfo) :=
  usages.foldl (fun groups u => addUsage u groups) []

/-- The usages by line. -/
def byLine (usages : List UsageInfo) : List UsageInfo :=
  usages.mergeSort fun a b => a.line ≤ b.line

/-- The lines of a file and of the usages in it. -/
def fileBlock (group : String × List UsageInfo) : List String :=
  ("📄 " ++ group.1 ++ ":") :: ((byLine group.2).flatMap usageLines ++ [""])

/-- The report of a search for usages. -/
def findUsages (r : FindUsagesResponse) : String :=
  joinLines <|
    ["Usages of '" ++ r.symbol ++ "': " ++ toString r.totalCount.toNat ++ " found", ""]
    ++ (groupByFile r.usages).flatMap fileBlock

/-- How many usages the report of a refused deletion shows. -/
def usagesShown : Nat := 15

/-- The usages that stand against a deletion, each followed by an empty line. -/
def blockingLines (usages : List UsageInfo) : List String :=
  (usages.take usagesShown).flatMap (fun u => usageLines u ++ [""])
    ++ (if usages.length > usagesShown then [moreLine (usages.length - usagesShown)] else [])

/-- The report of a deletion: one sentence if the element is gone, else what stands against it. -/
def safeDelete (r : SafeDeleteResponse) : String :=
  if r.deleted then "Successfully deleted element (no usages found)."
  else
    joinLines <|
      ["Cannot delete: " ++ toString r.usagesFound.toNat ++ " usage(s) found:", ""]
      ++ blockingLines (r.usages.getD [])
      ++ ["", "Remove or update these usages before deleting."]

end RefactorGateway.Report
