import TaskEngine.Json.Basic
import TaskEngine.Schema.Format

/-!
# Dialects of the schema language

A schema is written in one of five dialects, which it may name; the latest is the default. A
dialect decides which keywords there are and what their values look like.
-/

namespace TaskEngine.Schema

/-- A dialect, from the oldest to the latest. -/
inductive Dialect where
  | draft4
  | draft6
  | draft7
  | draft2019
  | draft2020
  deriving DecidableEq, Repr

namespace Dialect

/-- The age of a dialect, for comparisons. -/
def age : Dialect → Nat
  | .draft4 => 4
  | .draft6 => 6
  | .draft7 => 7
  | .draft2019 => 2019
  | .draft2020 => 2020

/-- Whether a dialect is at least as late as another. -/
def atLeast (d other : Dialect) : Bool := other.age ≤ d.age

/-- The dialect that an identifier names, with or without number signs at its end. -/
def ofIdentifier? (text : String) : Option Dialect :=
  match String.ofList (text.toList.reverse.dropWhile (· = '#')).reverse with
  | "https://json-schema.org/draft/2020-12/schema" => some .draft2020
  | "https://json-schema.org/draft/2019-09/schema" => some .draft2019
  | "http://json-schema.org/draft-07/schema" => some .draft7
  | "http://json-schema.org/draft-06/schema" => some .draft6
  | "http://json-schema.org/draft-04/schema" => some .draft4
  | _ => none

/-- The dialect of a schema: the one it names, or that of what is around it. A name that is not
known is refused. -/
def detect? (around : Dialect) (schema : Json) : Option Dialect :=
  match schema.field? "$schema" with
  | some (.str name) => ofIdentifier? name
  | _ => some around

/-- The dialect of a whole schema; the latest is the default. -/
def ofSchema? (schema : Json) : Option Dialect := detect? .draft2020 schema

/-- The key under which schemas name themselves. -/
def idKey : Dialect → String
  | .draft4 => "id"
  | _ => "$id"

end Dialect

/-- The names of the basic types. -/
def typeNames : List String :=
  ["array", "boolean", "integer", "null", "number", "object", "string"]

/-- What the value of a keyword has to look like. -/
inductive KeywordForm where
  | schema
  /-- A truth value, or a schema where schemas are no truth values themselves. -/
  | schemaOrFlag
  /-- At least one schema. -/
  | schemas
  /-- One schema, or a list of at least one. -/
  | schemaOrSchemas
  /-- Schemas under names. -/
  | schemaMap
  /-- Schemas under patterns. -/
  | patternMap
  /-- Schemas or lists of names under names; the lists may have to hold one name at least. -/
  | dependencyMap (nonEmpty : Bool)
  | text
  /-- A text in a format. -/
  | formatted (format : String)
  | number
  /-- A number above zero. -/
  | positive
  /-- A whole number from zero on, which may have to be written as one. -/
  | count (asInteger : Bool)
  | flag
  | list
  /-- A list of different texts, which may have to hold one at least. -/
  | texts (nonEmpty : Bool)
  /-- Lists of different texts under names. -/
  | textsMap
  /-- The name of a type, or a list of different ones. -/
  | type
  /-- An identifier without a fragment. -/
  | resource
  /-- A plain name that references use, as of the latest dialect or of the one before. -/
  | anchor (latest : Bool)
  /-- Truth values under names. -/
  | flagMap
  deriving DecidableEq, Repr

/-- The form of a keyword in a dialect; any other key is free. Only the older dialects insist on
formats. -/
def KeywordForm.of? (d : Dialect) (keyword : String) : Option KeywordForm :=
  let since (other : Dialect) (form : KeywordForm) : Option KeywordForm :=
    if d.atLeast other then some form else none
  let formatted (format : String) : KeywordForm :=
    if d.atLeast .draft2019 then .text else .formatted format
  match keyword with
  | "type" => some .type
  | "enum" => some .list
  | "title" | "description" | "format" => some .text
  | "$schema" => some (if d = .draft4 then .text else formatted "uri")
  | "pattern" => some (formatted "regex")
  | "multipleOf" => some .positive
  | "minimum" | "maximum" => some .number
  | "exclusiveMinimum" | "exclusiveMaximum" =>
    some (if d = .draft4 then .flag else .number)
  | "minLength" | "maxLength" | "minItems" | "maxItems" | "minProperties" | "maxProperties" =>
    some (.count (d = .draft4))
  | "uniqueItems" => some .flag
  | "required" => some (.texts (d = .draft4))
  | "properties" | "definitions" => some .schemaMap
  | "patternProperties" =>
    some (if d = .draft6 ∨ d = .draft7 then .patternMap else .schemaMap)
  | "additionalProperties" => some .schemaOrFlag
  | "allOf" | "anyOf" | "oneOf" => some .schemas
  | "not" => some .schema
  | "items" => some (if d = .draft2020 then .schema else .schemaOrSchemas)
  | "additionalItems" => if d = .draft2020 then none else some .schemaOrFlag
  | "dependencies" => some (.dependencyMap (d = .draft4))
  | "id" => if d = .draft4 then some .text else none
  | "$id" =>
    if d.atLeast .draft2019 then some .resource else since .draft6 (formatted "uri-reference")
  | "$ref" => since .draft6 (formatted "uri-reference")
  | "$comment" | "contentEncoding" | "contentMediaType" => since .draft7 .text
  | "readOnly" | "writeOnly" => since .draft7 .flag
  | "examples" => since .draft6 .list
  | "contains" | "propertyNames" => since .draft6 .schema
  | "if" | "then" | "else" => since .draft7 .schema
  | "minContains" | "maxContains" => since .draft2019 (.count false)
  | "dependentRequired" => since .draft2019 .textsMap
  | "dependentSchemas" | "$defs" => since .draft2019 .schemaMap
  | "unevaluatedItems" | "unevaluatedProperties" | "contentSchema" => since .draft2019 .schema
  | "deprecated" => since .draft2019 .flag
  | "$anchor" => since .draft2019 (.anchor (d = .draft2020))
  | "$vocabulary" => since .draft2019 .flagMap
  | "$recursiveRef" => since .draft2019 .text
  | "$recursiveAnchor" =>
    if d = .draft2020 then some (.anchor true) else since .draft2019 .flag
  | "$dynamicRef" => since .draft2020 .text
  | "$dynamicAnchor" => since .draft2020 (.anchor true)
  | "prefixItems" => since .draft2020 .schemas
  | _ => none

namespace KeywordForm

/-- Whether no two values are equal. -/
def allDifferent : List Json → Bool
  | [] => true
  | x :: rest => !rest.any x.sameValue && allDifferent rest

/-- Whether a value is a list of different texts. -/
def isTexts (nonEmpty : Bool) : Json → Bool
  | .arr items =>
    items.all (fun i => i.text?.isSome) && allDifferent items && !(nonEmpty && items.isEmpty)
  | _ => false

/-- A name for references: a letter or, in the latest dialect, an underscore, then letters, digits
and three signs, of which one is a colon in the dialect before. -/
def isAnchor (latest : Bool) : List Char → Bool
  | c :: rest =>
    (c.isAlpha || (latest && c = '_')) &&
      rest.all fun c => c.isAlphanum || c = '-' || c = '_' || c = '.' || (!latest && c = ':')
  | [] => false

/-- Whether a value has a form; the test for schemas is given. -/
def holds (isSchema : Json → Bool) (value : Json) : KeywordForm → Bool
  | .schema => isSchema value
  | .schemaOrFlag =>
    match value with
    | .bool _ => true
    | v => isSchema v
  | .schemas =>
    match value with
    | .arr items => !items.isEmpty && items.all isSchema
    | _ => false
  | .schemaOrSchemas =>
    match value with
    | .arr items => !items.isEmpty && items.all isSchema
    | v => isSchema v
  | .schemaMap =>
    match value with
    | .obj fields => fields.all fun f => isSchema f.2
    | _ => false
  | .patternMap =>
    match value with
    | .obj fields => fields.all fun f => Format.holds "regex" f.1 && isSchema f.2
    | _ => false
  | .dependencyMap nonEmpty =>
    match value with
    | .obj fields => fields.all fun f => isSchema f.2 || isTexts nonEmpty f.2
    | _ => false
  | .text => value.text?.isSome
  | .formatted format => value.text?.any (Format.holds format)
  | .number =>
    match value with
    | .num _ => true
    | _ => false
  | .positive =>
    match value with
    | .num n => n.compare (.int 0) == .gt
    | _ => false
  | .count asInteger =>
    match value with
    | .num (.int n) => 0 ≤ n
    | .num n => !asInteger && n.isWhole && n.compare (.int 0) != .lt
    | _ => false
  | .flag =>
    match value with
    | .bool _ => true
    | _ => false
  | .list =>
    match value with
    | .arr _ => true
    | _ => false
  | .texts nonEmpty => isTexts nonEmpty value
  | .textsMap =>
    match value with
    | .obj fields => fields.all fun f => isTexts false f.2
    | _ => false
  | .type =>
    match value with
    | .str name => name ∈ typeNames
    | .arr items =>
      !items.isEmpty && allDifferent items &&
        items.all fun i => i.text?.any (· ∈ typeNames)
    | _ => false
  | .resource =>
    match value with
    | .str id => ((id.toList.dropWhile (· ≠ '#')).drop 1).isEmpty
    | _ => false
  | .anchor latest =>
    match value with
    | .str name => isAnchor latest name.toList
    | _ => false
  | .flagMap =>
    match value with
    | .obj fields => fields.all fun f =>
      match f.2 with
      | .bool _ => true
      | _ => false
    | _ => false

end KeywordForm

/-- Whether the flags that make limits exclusive stand beside limits; later dialects have none. -/
def areFlagsInPlace (d : Dialect) (fields : List (String × Json)) : Bool :=
  let isIn (key : String) : Bool := (Dict.lookup key fields).isSome
  d ≠ .draft4 ||
    (!isIn "exclusiveMaximum" || isIn "maximum") && (!isIn "exclusiveMinimum" || isIn "minimum")

/-- Whether a value is a schema of a dialect: a truth value, or an object whose keywords have their
forms. The fuel bounds the nesting. -/
def isSchemaWithin (d : Dialect) : (fuel : Nat) → Json → Bool
  | 0, _ => false
  | fuel + 1, schema =>
    match schema with
    | .bool _ => d ≠ .draft4
    | .obj fields =>
      areFlagsInPlace d fields &&
        fields.all fun field =>
          match KeywordForm.of? d field.1 with
          | some form => form.holds (isSchemaWithin d fuel) field.2
          | none => true
    | _ => false

/-- Whether a value is a schema of a dialect. -/
def isSchema (d : Dialect) (schema : Json) : Bool := isSchemaWithin d (schema.depth + 1) schema

end TaskEngine.Schema
