import TaskEngine.Json.Printer
import TaskEngine.Text.Split

/-!
# Violations of a schema

What an instance can do wrong, and how it is worded. A violation holds what its text shows: mostly
the offending value in compact form and the demand that it fails.
-/

namespace TaskEngine.Schema

/-- A limit on the value of a number. -/
inductive Bound where
  | minimum
  | maximum
  | exclusiveMinimum
  | exclusiveMaximum
  deriving DecidableEq, Repr

namespace Bound

/-- How a value stands to a limit that it breaks. -/
def phrase : Bound → String
  | .minimum => " is less than the minimum of "
  | .maximum => " is greater than the maximum of "
  | .exclusiveMinimum => " is less than or equal to the minimum of "
  | .exclusiveMaximum => " is greater than or equal to the maximum of "

/-- Whether a number keeps a limit. -/
def holds (bound : Bound) (n limit : JsonNumber) : Bool :=
  match bound with
  | .minimum => n.compare limit != .lt
  | .maximum => n.compare limit != .gt
  | .exclusiveMinimum => n.compare limit == .gt
  | .exclusiveMaximum => n.compare limit == .lt

end Bound

/-- What the size of a value counts. -/
inductive Measure where
  | characters
  | items
  | properties
  deriving DecidableEq, Repr

/-- One unit of a measure, or several. -/
def Measure.unit (measure : Measure) (count : Nat) : String :=
  match measure, count with
  | .characters, 1 => "character"
  | .characters, _ => "characters"
  | .items, 1 => "item"
  | .items, _ => "items"
  | .properties, 1 => "property"
  | .properties, _ => "properties"

/-- A demand that an instance does not meet. -/
inductive Violation where
  /-- The value has none of these types. -/
  | wrongType (value : Json) (names : List String)
  /-- A demanded property is absent. -/
  | missing (key : String)
  /-- The value breaks a limit. -/
  | outOfBound (bound : Bound) (value : Json) (limit : JsonNumber)
  /-- The value is no multiple of a number. -/
  | notMultiple (value : Json) (factor : Number.Binary64)
  /-- The value is too small. -/
  | tooFew (measure : Measure) (value : Json) (limit : Nat)
  /-- The value is too large. -/
  | tooMany (measure : Measure) (value : Json) (limit : Nat)
  /-- Two items are equal. -/
  | repeatedItems (value : Json)
  /-- The value is not one of the options. -/
  | notListed (value : Json) (options : List Json)
  /-- The value differs from the only one that is allowed. -/
  | different (expected : Json)
  /-- The text does not match a pattern. -/
  | unmatched (value : Json) (pattern : String)
  /-- The text does not have a format. -/
  | badFormat (value : Json) (format : String)
  /-- Too few or too many items satisfy a schema. -/
  | notContained (value : Json)
  /-- The schema allows nothing. -/
  | refused (value : Json)
  /-- The value satisfies a schema that it should not. -/
  | forbidden (schema value : Json)
  /-- The value satisfies none of the alternatives under a keyword. -/
  | noAlternative (keyword : String) (value : Json)
  /-- The value satisfies more than one of the alternatives under a keyword. -/
  | severalAlternatives (keyword : String) (value : Json)
  /-- There are properties beyond the allowed ones. -/
  | extraProperties (keys : List String)
  /-- There are items beyond the allowed ones. -/
  | extraItems (items : List Json)
  /-- There are properties that no part of the schema speaks of. -/
  | uncoveredProperties (keys : List String)
  /-- There are items that no part of the schema speaks of. -/
  | uncoveredItems (items : List Json)
  deriving DecidableEq

namespace Violation

/-- A listing of what was not expected. -/
def unexpected (kind : String) (listed : List String) : String :=
  kind ++ " are not allowed (" ++ Text.joinWith ", " listed ++
    (if listed.length = 1 then " was unexpected)" else " were unexpected)")

/-- A property key in the quotes of a listing. -/
def quotedKey (key : String) : String := "'" ++ key ++ "'"

/-- The text of a violation. -/
def message : Violation → String
  | .wrongType value [name] => value.compact ++ " is not of type \"" ++ name ++ "\""
  | .wrongType value names =>
    value.compact ++ " is not of types " ++
      Text.joinWith ", " (names.map fun name => "\"" ++ name ++ "\"")
  | .missing key => (Json.str key).compact ++ " is a required property"
  | .outOfBound bound value limit => value.compact ++ bound.phrase ++ limit.render
  | .notMultiple value factor =>
    value.compact ++ " is not a multiple of " ++ JsonNumber.plainLayout.render factor
  | .tooFew measure value limit =>
    value.compact ++ (if measure = .characters then " is shorter than " else " has less than ") ++
      toString limit ++ " " ++ measure.unit limit
  | .tooMany measure value limit =>
    value.compact ++ (if measure = .characters then " is longer than " else " has more than ") ++
      toString limit ++ " " ++ measure.unit limit
  | .repeatedItems value => value.compact ++ " has non-unique elements"
  | .notListed value options => value.compact ++ " is not one of " ++ (Json.arr options).compact
  | .different expected => expected.compact ++ " was expected"
  | .unmatched value pattern => value.compact ++ " does not match \"" ++ pattern ++ "\""
  | .badFormat value format => value.compact ++ " is not a \"" ++ format ++ "\""
  | .notContained value => "None of " ++ value.compact ++ " are valid under the given schema"
  | .refused value => "False schema does not allow " ++ value.compact
  | .forbidden schema value => schema.compact ++ " is not allowed for " ++ value.compact
  | .noAlternative keyword value =>
    value.compact ++ " is not valid under any of the schemas listed in the '" ++ keyword ++
      "' keyword"
  | .severalAlternatives keyword value =>
    value.compact ++ " is valid under more than one of the schemas listed in the '" ++ keyword ++
      "' keyword"
  | .extraProperties keys => unexpected "Additional properties" (keys.map quotedKey)
  | .extraItems items => unexpected "Additional items" (items.map Json.compact)
  | .uncoveredProperties keys => unexpected "Unevaluated properties" (keys.map quotedKey)
  | .uncoveredItems items => unexpected "Unevaluated items" (items.map Json.compact)

end Violation

end TaskEngine.Schema
