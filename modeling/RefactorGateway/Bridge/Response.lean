import RefactorGateway.Bridge.Entity
/-!
# Responses of the bridge

What the bridge answers to each operation that succeeds.

## Main Definitions

One structure for each operation, and its `shape`.

## Design Notes

A response knows all its members and none may be missing. The exception is `success`, which the
bridge leaves out when all is well, and what has a default of its own.
-/

namespace RefactorGateway.Bridge

open Wire (Shape Fields Codec)

/-- The member that tells success from failure. It is true unless the bridge says otherwise. -/
def successField : Wire.Field Bool := .defaulted "success" .flag true

/-- The edits of a refactoring. -/
def changesField : Wire.Field (List FileChange) :=
  .required "changes" (.list FileChange.shape.codec)

/-- The state of the bridge. -/
structure HealthResponse where
  success : Bool
  status : String
  version : String
  projectsOpen : UInt32
  deriving DecidableEq

/-- How the state of the bridge is written. -/
def HealthResponse.shape : Shape HealthResponse where
  name := "HealthResponse"
  strict := true
  fields :=
    .cons successField <|
    .cons (.defaulted "status" .text "ok") <|
    .cons (.required "version" .text) <|
    .cons (.required "projectsOpen" .count) .nil
  build := fun (success, status, version, projectsOpen, ()) =>
    ⟨success, status, version, projectsOpen⟩
  split r := (r.success, r.status, r.version, r.projectsOpen, ())

/-- The projects of the editor. -/
structure ProjectListResponse where
  success : Bool
  projects : List ProjectInfo
  deriving DecidableEq

/-- How a list of projects is written. -/
def ProjectListResponse.shape : Shape ProjectListResponse where
  name := "ProjectListResponse"
  strict := true
  fields :=
    .cons successField <|
    .cons (.required "projects" (.list ProjectInfo.shape.codec)) .nil
  build := fun (success, projects, ()) => ⟨success, projects⟩
  split r := (r.success, r.projects, ())

/-- The outcome of a rename. -/
structure RenameResponse where
  success : Bool
  changes : List FileChange
  filesModified : UInt32
  usagesUpdated : UInt32
  deriving DecidableEq

/-- How the outcome of a rename is written. -/
def RenameResponse.shape : Shape RenameResponse where
  name := "RenameResponse"
  strict := true
  fields :=
    .cons successField <|
    .cons changesField <|
    .cons (.required "filesModified" .count) <|
    .cons (.required "usagesUpdated" .count) .nil
  build := fun (success, changes, filesModified, usagesUpdated, ()) =>
    ⟨success, changes, filesModified, usagesUpdated⟩
  split r := (r.success, r.changes, r.filesModified, r.usagesUpdated, ())

/-- The outcome of a move. -/
structure MoveResponse where
  success : Bool
  changes : List FileChange
  filesModified : UInt32
  importsUpdated : UInt32
  deriving DecidableEq

/-- How the outcome of a move is written. -/
def MoveResponse.shape : Shape MoveResponse where
  name := "MoveResponse"
  strict := true
  fields :=
    .cons successField <|
    .cons changesField <|
    .cons (.required "filesModified" .count) <|
    .cons (.required "importsUpdated" .count) .nil
  build := fun (success, changes, filesModified, importsUpdated, ()) =>
    ⟨success, changes, filesModified, importsUpdated⟩
  split r := (r.success, r.changes, r.filesModified, r.importsUpdated, ())

/-- The outcome of extracting a method. -/
structure ExtractMethodResponse where
  success : Bool
  file : String
  methodLine : UInt32
  parameters : List String
  returnType : Option String
  deriving DecidableEq

/-- How the outcome of extracting a method is written. -/
def ExtractMethodResponse.shape : Shape ExtractMethodResponse where
  name := "ExtractMethodResponse"
  strict := true
  fields :=
    .cons successField <|
    .cons (.required "file" .text) <|
    .cons (.required "methodLine" .count) <|
    .cons (.required "parameters" (.list .text)) <|
    .cons (.optional "returnType" .text) .nil
  build := fun (success, file, methodLine, parameters, returnType, ()) =>
    ⟨success, file, methodLine, parameters, returnType⟩
  split r := (r.success, r.file, r.methodLine, r.parameters, r.returnType, ())

/-- The outcome of extracting a variable. -/
structure ExtractVariableResponse where
  success : Bool
  file : String
  variableLine : UInt32
  occurrencesReplaced : UInt32
  deriving DecidableEq

/-- How the outcome of extracting a variable is written. -/
def ExtractVariableResponse.shape : Shape ExtractVariableResponse where
  name := "ExtractVariableResponse"
  strict := true
  fields :=
    .cons successField <|
    .cons (.required "file" .text) <|
    .cons (.required "variableLine" .count) <|
    .cons (.required "occurrencesReplaced" .count) .nil
  build := fun (success, file, variableLine, occurrencesReplaced, ()) =>
    ⟨success, file, variableLine, occurrencesReplaced⟩
  split r := (r.success, r.file, r.variableLine, r.occurrencesReplaced, ())

/-- The outcome of inlining. -/
structure InlineResponse where
  success : Bool
  changes : List FileChange
  usagesInlined : UInt32
  deriving DecidableEq

/-- How the outcome of inlining is written. -/
def InlineResponse.shape : Shape InlineResponse where
  name := "InlineResponse"
  strict := true
  fields :=
    .cons successField <|
    .cons changesField <|
    .cons (.required "usagesInlined" .count) .nil
  build := fun (success, changes, usagesInlined, ()) => ⟨success, changes, usagesInlined⟩
  split r := (r.success, r.changes, r.usagesInlined, ())

/-- The outcome of a change of signature. -/
structure ChangeSignatureResponse where
  success : Bool
  changes : List FileChange
  callSitesUpdated : UInt32
  deriving DecidableEq

/-- How the outcome of a change of signature is written. -/
def ChangeSignatureResponse.shape : Shape ChangeSignatureResponse where
  name := "ChangeSignatureResponse"
  strict := true
  fields :=
    .cons successField <|
    .cons changesField <|
    .cons (.required "callSitesUpdated" .count) .nil
  build := fun (success, changes, callSitesUpdated, ()) => ⟨success, changes, callSitesUpdated⟩
  split r := (r.success, r.changes, r.callSitesUpdated, ())

/-- The outcome of a deletion, with the usages that stood against it. -/
structure SafeDeleteResponse where
  success : Bool
  deleted : Bool
  usagesFound : UInt32
  usages : Option (List UsageInfo)
  deriving DecidableEq

/-- How the outcome of a deletion is written. -/
def SafeDeleteResponse.shape : Shape SafeDeleteResponse where
  name := "SafeDeleteResponse"
  strict := true
  fields :=
    .cons successField <|
    .cons (.required "deleted" .flag) <|
    .cons (.defaulted "usagesFound" .count 0) <|
    .cons (.optional "usages" (.list UsageInfo.shape.codec)) .nil
  build := fun (success, deleted, usagesFound, usages, ()) =>
    ⟨success, deleted, usagesFound, usages⟩
  split r := (r.success, r.deleted, r.usagesFound, r.usages, ())

/-- The usages of a symbol. -/
structure FindUsagesResponse where
  success : Bool
  symbol : String
  usages : List UsageInfo
  totalCount : UInt32
  deriving DecidableEq

/-- How the usages of a symbol are written. -/
def FindUsagesResponse.shape : Shape FindUsagesResponse where
  name := "FindUsagesResponse"
  strict := true
  fields :=
    .cons successField <|
    .cons (.required "symbol" .text) <|
    .cons (.required "usages" (.list UsageInfo.shape.codec)) <|
    .cons (.required "totalCount" .count) .nil
  build := fun (success, symbol, usages, totalCount, ()) =>
    ⟨success, symbol, usages, totalCount⟩
  split r := (r.success, r.symbol, r.usages, r.totalCount, ())

end RefactorGateway.Bridge
