import TaskEngine.Schema.Coverage
import TaskEngine.Schema.Violation

/-!
# Evaluating schemas

A schema is applied to an instance keyword by keyword, in the order of the keys, and each keyword
adds its violations; no violation means that the schema accepts the instance. Keywords that combine
schemas either pass the inner violations on or replace them by one of their own. A reference may
lead back to where it stands; such a chain demands nothing.
-/

namespace TaskEngine.Schema

/-- The violations of a schema by an instance. -/
abbrev Judge := (schema value : Json) → List Violation

namespace Keyword

/-- One violation, unless a demand is met. -/
def demand (met : Bool) (violation : Violation) : List Violation := if met then [] else [violation]

/-- Whether a dialect has a keyword. -/
def isKnown (d : Dialect) (keyword : String) : Bool :=
  if keyword = "const" then d.atLeast .draft6 else (KeywordForm.of? d keyword).isSome

/-! ## Types and values -/

/-- Whether a value has a type. From the second dialect on whole doubles are integers. -/
def hasType (d : Dialect) (value : Json) (name : String) : Bool :=
  match name, value with
  | "array", .arr _ | "boolean", .bool _ | "null", .null | "number", .num _ | "object", .obj _
  | "string", .str _ | "integer", .num (.int _) => true
  | "integer", .num (.float x) => d ≠ .draft4 && x.isWhole
  | _, _ => false

/-- The types that an argument names, in their order. -/
def typesOf : Json → List String
  | .str name => [name]
  | .arr items => typeNames.filter fun name => items.contains (.str name)
  | _ => []

/-! ## Numbers -/

/-- The double of a number. -/
def toDouble : JsonNumber → Number.Binary64
  | .int n => (Number.Binary64.ofInt? n).getD .zero
  | .float x => x

/-- Below this fraction a quotient counts as whole, one over two to this power. -/
def precisionBits : Nat := 52

/-- Whether a double is a multiple of another one. For a whole factor the remainder decides; for
any other one the rounded quotient has to be whole up to the precision of doubles. -/
def isMultiple (x factor : Number.Binary64) : Bool :=
  if factor.isWhole then x.isWhole && x.truncate % factor.truncate == 0
  else
    match x.div? factor with
    | none => (x.ratio.1 * factor.ratio.2) % (x.ratio.2 * factor.ratio.1) == 0
    | some quotient =>
      quotient.negative ||
        (quotient.ratio.1 % quotient.ratio.2) * Nat.pow 2 precisionBits < quotient.ratio.2

/-- The limit that a keyword sets on numbers. In the oldest dialect flags make limits exclusive. -/
def bound? (d : Dialect) (siblings : List (String × Json)) (keyword : String) : Option Bound :=
  let flagged (flag : String) : Bool := d = .draft4 && Dict.lookup flag siblings == some (.bool true)
  match keyword with
  | "minimum" => some (if flagged "exclusiveMinimum" then .exclusiveMinimum else .minimum)
  | "maximum" => some (if flagged "exclusiveMaximum" then .exclusiveMaximum else .maximum)
  | "exclusiveMinimum" => some .exclusiveMinimum
  | "exclusiveMaximum" => some .exclusiveMaximum
  | _ => none

/-! ## Sizes -/

/-- The size of a value in a measure. -/
def size? : Measure → Json → Option Nat
  | .characters, .str s => some s.length
  | .items, .arr items => some items.length
  | .properties, .obj fields => some fields.length
  | _, _ => none

/-- The natural number of a count. -/
def count? : Json → Option Nat
  | .num n => some (n.ratio.1.toNat / n.ratio.2)
  | _ => none

/-- The violation of a limit on the size of a value. -/
def sizeViolations (measure : Measure) (isLower : Bool) (argument value : Json) : List Violation :=
  match size? measure value, count? argument with
  | some size, some limit =>
    if isLower then demand (limit ≤ size) (.tooFew measure value limit)
    else demand (size ≤ limit) (.tooMany measure value limit)
  | _, _ => []

/-! ## Texts -/

/-- Whether a dialect has a format. -/
def hasFormat (d : Dialect) (format : String) : Bool :=
  match format with
  | "duration" | "uuid" => d.atLeast .draft2019
  | "idn-hostname" | "iri" | "iri-reference" | "relative-json-pointer" => d.atLeast .draft7
  | "json-pointer" | "uri-reference" | "uri-template" => d.atLeast .draft6
  | _ => true

/-! ## Properties -/

/-- The violations by the properties that schemas are given for by name. -/
def propertyViolations (judge : Judge) (schemas fields : List (String × Json)) : List Violation :=
  schemas.flatMap fun rule =>
    match Dict.lookup rule.1 fields with
    | some value => judge rule.2 value
    | none => []

/-- The violations by the properties that schemas are given for by pattern. -/
def patternViolations (judge : Judge) (schemas fields : List (String × Json)) : List Violation :=
  schemas.flatMap fun rule =>
    (fields.filter fun field => matchesPattern rule.1 field.1).flatMap fun field =>
      judge rule.2 field.2

/-- Whether the rule for additional properties also applies the other two rules for properties. -/
def isTakenOver (siblings : List (String × Json)) : Bool :=
  match Dict.lookup "additionalProperties" siblings with
  | some (.bool false) | some (.obj _) => true
  | _ => false

/-- The violations by all properties, one after the other: a property is judged by the schemas for
its name and for its patterns, and by the schema for the rest if there are none. -/
def additionalViolations (judge : Judge) (siblings : List (String × Json)) (argument : Json)
    (fields : List (String × Json)) : List Violation :=
  let named := Dict.lookup "properties" siblings
  let patterns := Dict.lookup "patternProperties" siblings
  let schemasFor (key : String) : List Json :=
    (Dict.lookup key (fieldsOf named)).toList ++
      ((fieldsOf patterns).filter fun rule => matchesPattern rule.1 key).map (·.2)
  match argument with
  | .bool true => []
  | .bool false =>
    if named.isNone && patterns.isNone then fields.map fun field => .refused field.2
    else
      let extra := (fields.map (·.1)).filter fun key => (schemasFor key).isEmpty
      (fields.flatMap fun field => (schemasFor field.1).flatMap (judge · field.2)) ++
        demand extra.isEmpty (.extraProperties extra)
  | rest =>
    fields.flatMap fun field =>
      match schemasFor field.1 with
      | [] => judge rest field.2
      | schemas => schemas.flatMap (judge · field.2)

/-- The violations by absent properties. -/
def missingViolations (keys : Json) (fields : List (String × Json)) : List Violation :=
  ((itemsOf keys).filterMap Json.text?).flatMap fun key =>
    demand (Dict.lookup key fields).isSome (.missing key)

/-- The violations of a demand on the keys of an object. -/
def nameViolations (judge : Judge) (argument : Json) (fields : List (String × Json)) :
    List Violation :=
  match argument with
  | .bool flag => demand (flag || fields.isEmpty) (.refused (.obj fields))
  | schema => fields.flatMap fun field => judge schema (.str field.1)

/-! ## Items -/

/-- Judge items by schemas at the same positions. -/
def positionViolations (judge : Judge) (schemas items : List Json) : List Violation :=
  (schemas.zip items).flatMap fun pair => judge pair.1 pair.2

/-- The violation of a demand on how many items satisfy a schema. -/
def containsViolations (judge : Judge) (d : Dialect) (siblings : List (String × Json))
    (argument : Json) (items : List Json) : List Violation :=
  let limit (keyword : String) : Option Nat :=
    if d.atLeast .draft2019 then (Dict.lookup keyword siblings).bind count? else none
  let count := (items.filter fun item => (judge argument item).isEmpty).length
  let enough := (limit "minContains").getD 1 ≤ count
  let notTooMany := (limit "maxContains").all (count ≤ ·)
  demand (enough && notTooMany) (.notContained (.arr items))

/-! ## Combinations -/

/-- The violation of a demand on how many alternatives accept a value. -/
def alternativeViolations (judge : Judge) (keyword : String) (onlyOne : Bool)
    (schemas : List Json) (value : Json) : List Violation :=
  match schemas.filter fun schema => (judge schema value).isEmpty with
  | [] => [.noAlternative keyword value]
  | [_] => []
  | _ => demand (!onlyOne) (.severalAlternatives keyword value)

/-- The violations of the branch that a condition chooses. -/
def branchViolations (judge : Judge) (siblings : List (String × Json)) (condition value : Json) :
    List Violation :=
  let branch := if (judge condition value).isEmpty then "then" else "else"
  match Dict.lookup branch siblings with
  | some schema => judge schema value
  | none => []

/-- The violations of rules that a property brings about. -/
def dependencyViolations (judge : Judge) (rules fields : List (String × Json)) : List Violation :=
  rules.flatMap fun rule =>
    if (Dict.lookup rule.1 fields).isNone then []
    else
      match rule.2 with
      | .arr keys => missingViolations (.arr keys) fields
      | schema => judge schema (.obj fields)

/-- What stands at places that the other keywords do not cover and that a schema refuses. -/
def uncovered (s : Setting) (judge : Target → Json → List Violation) (fuel : Nat) (keyword : String)
    (siblings : List (String × Json)) (argument value : Json) : List (Place × Json) :=
  let others := siblings.filter fun sibling => sibling.1 ≠ keyword
  let accepts (target : Target) (v : Json) : Bool := (judge target v).isEmpty
  let covered := coveredPlaces accepts fuel ⟨s, .obj others⟩ value
  (Place.all value).filter fun place =>
    !covered.contains place.1 && !accepts (s.inside argument) place.2

/-! ## All keywords -/

/-- The violations of one keyword. -/
def violations (s : Setting) (judgeAt : Target → Json → List Violation) (fuel : Nat)
    (siblings : List (String × Json)) (keyword : String) (argument value : Json) :
    List Violation :=
  let judge : Judge := fun schema => judgeAt (s.inside schema)
  match keyword, value with
  | "type", _ =>
    demand ((typesOf argument).any (hasType s.dialect value)) (.wrongType value (typesOf argument))
  | "enum", _ =>
    demand ((itemsOf argument).any value.sameValue) (.notListed value (itemsOf argument))
  | "const", _ => demand (value.sameValue argument) (.different argument)
  | "multipleOf", .num n =>
    match argument with
    | .num factor =>
      demand (isMultiple (toDouble n) (toDouble factor)) (.notMultiple value (toDouble factor))
    | _ => []
  | "minLength", _ => sizeViolations .characters true argument value
  | "maxLength", _ => sizeViolations .characters false argument value
  | "minItems", _ => sizeViolations .items true argument value
  | "maxItems", _ => sizeViolations .items false argument value
  | "minProperties", _ => sizeViolations .properties true argument value
  | "maxProperties", _ => sizeViolations .properties false argument value
  | "pattern", .str text =>
    match argument with
    | .str pattern => demand (matchesPattern pattern text) (.unmatched value pattern)
    | _ => []
  | "format", .str text =>
    match argument with
    | .str format =>
      demand (!hasFormat s.dialect format || Format.holds format text) (.badFormat value format)
    | _ => []
  | "uniqueItems", .arr items =>
    demand (argument != .bool true || KeywordForm.allDifferent items) (.repeatedItems value)
  | "prefixItems", .arr items => positionViolations judge (itemsOf argument) items
  | "items", .arr items =>
    match argument with
    | .arr schemas => positionViolations judge schemas items
    | schema =>
      let ahead := ((Dict.lookup "prefixItems" siblings).map fun p => (itemsOf p).length).getD 0
      (items.drop (if s.dialect = .draft2020 then ahead else 0)).flatMap (judge schema)
  | "additionalItems", .arr items =>
    match Dict.lookup "items" siblings, argument with
    | some (.arr schemas), .bool flag =>
      let extra := items.drop schemas.length
      demand (flag || extra.isEmpty) (.extraItems extra)
    | some (.arr schemas), schema => (items.drop schemas.length).flatMap (judge schema)
    | _, _ => []
  | "contains", .arr items => containsViolations judge s.dialect siblings argument items
  | "required", .obj fields => missingViolations argument fields
  | "properties", .obj fields =>
    if isTakenOver siblings then [] else propertyViolations judge (fieldsOf argument) fields
  | "patternProperties", .obj fields =>
    if isTakenOver siblings then [] else patternViolations judge (fieldsOf argument) fields
  | "additionalProperties", .obj fields => additionalViolations judge siblings argument fields
  | "propertyNames", .obj fields => nameViolations judge argument fields
  | "dependencies", .obj fields | "dependentRequired", .obj fields
  | "dependentSchemas", .obj fields => dependencyViolations judge (fieldsOf argument) fields
  | "allOf", _ => (itemsOf argument).flatMap (judge · value)
  | "anyOf", _ => alternativeViolations judge "anyOf" false (itemsOf argument) value
  | "oneOf", _ => alternativeViolations judge "oneOf" true (itemsOf argument) value
  | "not", _ => demand (!(judge argument value).isEmpty) (.forbidden argument value)
  | "if", _ => branchViolations judge siblings argument value
  | "$ref", _ | "$dynamicRef", _ | "$recursiveRef", _ =>
    match s.target? keyword argument with
    | some target => judgeAt target value
    | none => []
  | "unevaluatedProperties", .obj _ =>
    let keys := (uncovered s judgeAt fuel keyword siblings argument value).filterMap fun
      | (.key k, _) => some k
      | _ => none
    demand keys.isEmpty (.uncoveredProperties keys)
  | "unevaluatedItems", .arr _ =>
    let items := (uncovered s judgeAt fuel keyword siblings argument value).map (·.2)
    demand items.isEmpty (.uncoveredItems items)
  | keyword, .num n =>
    match bound? s.dialect siblings keyword, argument with
    | some bound, .num limit => demand (bound.holds n limit) (.outOfBound bound value limit)
    | _, _ => []
  | _, _ => []

/-- The keywords of a schema that count. Up to the third dialect a reference stands alone. -/
def effective (d : Dialect) (keywords : List (String × Json)) : List (String × Json) :=
  if (Dict.lookup "$ref" keywords).isSome && !d.atLeast .draft2019 then
    keywords.filter fun keyword => keyword.1 = "$ref"
  else keywords.filter fun keyword => isKnown d keyword.1

end Keyword

/-- The violations of a schema by an instance. The fuel bounds the nesting of schemas; a chain of
references that outlasts it demands nothing. -/
def violationsWithin : (fuel : Nat) → Target → (value : Json) → List Violation
  | 0, _, _ => []
  | fuel + 1, ⟨s, schema⟩, value =>
    match schema with
    | .bool true => []
    | .bool false => [.refused value]
    | .obj keywords =>
      let effective := Keyword.effective s.dialect keywords
      effective.flatMap fun (keyword, argument) =>
        Keyword.violations s (violationsWithin fuel) fuel effective keyword argument value
    | _ => []

/-- Whether a value is an object with a reference to another resource. -/
def refersOutside (value : Json) : Bool :=
  ["$ref", "$dynamicRef"].any fun keyword =>
    ((value.field? keyword).bind Json.text?).any fun text => text.toList.head? ≠ some '#'

/-- The number of schemas that a schema can lead to at most. Metaschemas only count where there is a
reference that might name one. -/
def extent (schema : Json) : Nat :=
  schema.nodes + if Json.hasInside refersOutside schema then Metaschema.nodes else 0

/-- The fuel that outlasts every chain of schemas without a cycle: every level of the instance can
meet every schema once. -/
def budget (schema value : Json) : Nat := (value.depth + 2) * (extent schema + 1) + 1

/-- The violations of a root schema by an instance. -/
def violations (d : Dialect) (schema value : Json) : List Violation :=
  violationsWithin (budget schema value) ⟨.ofRoot d schema, schema⟩ value

end TaskEngine.Schema
