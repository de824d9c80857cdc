import TaskEngine.Error
import TaskEngine.Json.Reader
import TaskEngine.Schema.Links
import TaskEngine.Text.Blank

/-!
# Schemas of task input

A stored schema is a full schema or a bare map from property names to schemas, which stands for an
object with these properties. Raw input is JSON text, where blank input means the empty object. A
schema is checked before the input is read, and the input is read before it is judged.
-/

namespace TaskEngine.Schema

/-- Keys that only a full schema has at its top. -/
def documentKeys : List String :=
  ["$schema", "$id", "$ref", "$defs", "definitions", "type", "properties", "patternProperties",
    "additionalProperties", "required", "items", "prefixItems", "enum", "const", "allOf", "anyOf",
    "oneOf", "not", "if", "then", "else", "format", "minimum", "maximum", "minLength", "maxLength",
    "pattern", "title", "description", "default"]

/-- Whether the fields of an object are a bare map of property schemas. -/
def isPropertyMap (fields : List (String × Json)) : Bool :=
  !fields.isEmpty && fields.all fun field => !documentKeys.contains field.1 && field.2.isObject

/-- The full schema that a stored schema stands for. -/
def normalize (schema : Json) : Json :=
  match schema with
  | .obj fields =>
    if isPropertyMap fields then Json.object [("type", .str "object"), ("properties", schema)]
    else schema
  | other => other

/-- The error for a value that is no schema. -/
def invalidSchema : EngineError := .validation "invalid schema" ["the schema does not compile"]

/-- The dialect of a full schema that is in order. -/
def dialect? (schema : Json) : Option Dialect := do
  let d ← Dialect.ofSchema? schema
  if isSchema d schema && areLinked d schema then some d else none

/-- Refuse a stored schema that does not stand for a schema. -/
def check (schema : Json) : Outcome Unit :=
  if (dialect? (normalize schema)).isSome then .ok () else .error invalidSchema

/-- Read raw input. Blank input is the empty object. -/
def parseInput (raw : String) : Outcome Json :=
  if Text.isBlank raw then .ok (.obj [])
  else
    match Json.read? raw with
    | some value => .ok value
    | none => .error (.validation "input is not valid JSON" ["not a JSON text"])

/-- The error that lists the violations of a schema. -/
def mismatch (found : List Violation) : EngineError :=
  .validation "input does not match the task schema" (found.map Violation.message)

/-- Judge raw input by a stored schema. -/
def validate (schema : Json) (raw : String) : Outcome Unit := do
  let document := normalize schema
  match dialect? document with
  | none => .error invalidSchema
  | some d =>
    let input ← parseInput raw
    match violations d document input with
    | [] => .ok ()
    | found => .error (mismatch found)

end TaskEngine.Schema
