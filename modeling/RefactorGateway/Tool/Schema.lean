import RefactorGateway.Json.Document
/-!
# Schemas of arguments

What a tool tells its callers about the arguments that it takes.

## Main Definitions

- `Schema`: what an argument has to be
- `Schema.document`: how a schema is published
-/

namespace RefactorGateway.Tool

open Json (Document)

/-- What an argument has to be. -/
inductive Schema
  | text
  /-- A whole number that is not below a least one. -/
  | integer (minimum : Nat)
  /-- A truth value that may be missing. -/
  | flag (default : Bool)
  | list (items : Schema)
  /-- An object with described members, of which some are required. -/
  | record (properties : List (String × Option String × Schema)) (required : List String)

mutual

/-- The members that publish a schema. -/
def Schema.members : Schema → List (String × Document)
  | .text => [("type", .string "string")]
  | .integer minimum => [("type", .string "integer"), ("minimum", .ofNat minimum)]
  | .flag value => [("type", .string "boolean"), ("default", .bool value)]
  | .list items => [("type", .string "array"), ("items", .object items.members)]
  | .record properties required =>
    [("type", .string "object"), ("properties", .object (Schema.propertyMembers properties))]
      ++ (if required.isEmpty then [] else [("required", .ofStrings required)])

/-- The members that publish the properties of a record. -/
def Schema.propertyMembers : List (String × Option String × Schema) → List (String × Document)
  | [] => []
  | (name, description, schema) :: rest =>
    let described := match description with
      | some words => [("description", .string words)]
      | none => []
    (name, .object (schema.members ++ described)) :: Schema.propertyMembers rest

end

/-- A schema as it is published. -/
def Schema.document (s : Schema) : Document := .object s.members

end RefactorGateway.Tool
