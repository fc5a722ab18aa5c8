import RefactorGateway.Bridge.Failure
import RefactorGateway.Bridge.Response
import RefactorGateway.Report.Layout
/-!
# Reports of the bridge itself

What a caller is told about the state of the bridge, about the projects that are open, and about an
operation that failed.

## Main Definitions

- `health`, `projects`: the bridge and its projects
- `failure`: an operation that the bridge did not carry out
-/

namespace RefactorGateway.Report

open Bridge

/-- The report of the state of the bridge. -/
def health (r : HealthResponse) : String :=
  "PyCharm bridge is " ++ r.status ++ " (version " ++ r.version ++ "), "
    ++ toString r.projectsOpen.toNat ++ " project(s) open."

/-- The lines of a project. -/
def projectEntry (p : ProjectInfo) : List String :=
  ["  • " ++ p.name ++ (if p.isDefault then " (default)" else ""), "    Path: " ++ p.path, ""]

/-- The report of the open projects. -/
def projects (r : ProjectListResponse) : String :=
  if r.projects.isEmpty then "No projects are currently open in PyCharm."
  else joinLines <| ["Open projects in PyCharm:", ""] ++ r.projects.flatMap projectEntry

/-- The report of a failure: the message and, on a line of its own, what details there are. -/
def failure (f : Failure) : String := "Error: " ++ f.message ++ "\n" ++ f.details.getD ""

end RefactorGateway.Report
