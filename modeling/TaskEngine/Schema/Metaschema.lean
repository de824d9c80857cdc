import TaskEngine.Schema.Scope

/-!
# Metaschemas

Every dialect is described by schemas of its own, which references can name. The two latest dialects
spread theirs over one document for each of their vocabularies. Titles, comments and defaults are
left out, since nothing is judged by them.
-/

namespace TaskEngine.Schema.Metaschema

/-! ## Parts -/

/-- The schema of a type. -/
def typed (name : String) : Json := .obj [("type", .str name)]

/-- The schema of numbers. -/
def number : Json := typed "number"

/-- The schema of texts. -/
def text : Json := typed "string"

/-- The schema of truth values. -/
def flag : Json := typed "boolean"

/-- The schema that a reference names. -/
def refTo (reference : String) : Json := .obj [("$ref", .str reference)]

/-- The schema of texts in a format. -/
def formatted (format : String) : Json :=
  Json.object [("type", .str "string"), ("format", .str format)]

/-- The schema of texts that match a pattern. -/
def matching (pattern : String) : Json :=
  Json.object [("type", .str "string"), ("pattern", .str pattern)]

/-- The schema of what one of two schemas accepts. -/
def either (a b : Json) : Json := .obj [("anyOf", .arr [a, b])]

/-- The schema of lists. -/
def listOf (item : Json) (more : List (String × Json)) : Json :=
  Json.object ([("type", .str "array"), ("items", item)] ++ more)

/-- The schema of objects whose values satisfy a schema. -/
def mapOf (value : Json) (more : List (String × Json)) : Json :=
  Json.object ([("type", .str "object"), ("additionalProperties", value)] ++ more)

/-- At least one item is demanded. -/
def nonEmpty : String × Json := ("minItems", .ofInt 1)

/-- Different items are demanded. -/
def different : String × Json := ("uniqueItems", .bool true)

/-! ## Groups of keywords -/

/-- Each of some keywords with the same schema. -/
def each (keywords : List String) (schema : Json) : List (String × Json) := keywords.map (·, schema)

/-- The keyword for types, by the place of the names of types. -/
def typeRule (names : String) : String × Json :=
  ("type", either (refTo names) (listOf (refTo names) [nonEmpty, different]))

/-- The keywords for sizes, by the places of the schemas for counts with and without a default. -/
def sizeRules (count countOrZero : String) : List (String × Json) :=
  each ["maxLength", "maxItems", "maxProperties"] (refTo count) ++
    each ["minLength", "minItems", "minProperties"] (refTo countOrZero)

/-- The keywords whose values are maps of schemas. -/
def mapRules (whole : Json) (patterns : List (String × Json)) (names : List String) :
    List (String × Json) :=
  each names (mapOf whole []) ++ [("patternProperties", mapOf whole patterns)]

/-- The keys of a map are patterns. -/
def patternKeys : String × Json := ("propertyNames", .obj [("format", .str "regex")])

/-- The names of types. -/
def simpleTypes : String × Json := ("simpleTypes", .obj [("enum", .ofTextList typeNames)])

/-- Whole numbers from zero on. -/
def naturals : Json := Json.object [("type", .str "integer"), ("minimum", .ofInt 0)]

/-! ## Dialects of one document -/

/-- The first dialect. -/
def draft4 : Json :=
  let whole := refTo "#"
  let schemas := refTo "#/definitions/schemaArray"
  let texts := refTo "#/definitions/stringArray"
  Json.object
    [("$schema", .str "http://json-schema.org/draft-04/schema#"),
      ("id", .str "http://json-schema.org/draft-04/schema#"),
      ("type", .str "object"),
      ("dependencies", .obj [("exclusiveMaximum", .ofTextList ["maximum"]),
        ("exclusiveMinimum", .ofTextList ["minimum"])]),
      ("definitions", Json.object
        [("schemaArray", listOf whole [nonEmpty]), ("positiveInteger", naturals),
          ("positiveIntegerDefault0", .obj [("allOf", .arr
            [refTo "#/definitions/positiveInteger", .obj []])]),
          simpleTypes, ("stringArray", listOf text [nonEmpty, different])]),
      ("properties", Json.object
        (each ["id", "$schema", "title", "description", "format"] text ++
          each ["maximum", "minimum"] number ++
          each ["exclusiveMaximum", "exclusiveMinimum", "uniqueItems"] flag ++
          each ["additionalItems", "additionalProperties"] (either flag whole) ++
          each ["allOf", "anyOf", "oneOf"] schemas ++
          sizeRules "#/definitions/positiveInteger" "#/definitions/positiveIntegerDefault0" ++
          mapRules whole [] ["definitions", "properties"] ++
          [("multipleOf", Json.object [("type", .str "number"), ("minimum", .ofInt 0),
              ("exclusiveMinimum", .bool true)]),
            ("pattern", formatted "regex"), ("items", either whole schemas), ("not", whole),
            ("required", texts), ("dependencies", mapOf (either whole texts) []),
            ("enum", typed "array"), ("default", .obj []),
            typeRule "#/definitions/simpleTypes"]))]

/-- The second and the third dialect, which has some more keywords. -/
def legacy (identifier : String) (more : Json → List (String × Json)) : Json :=
  let whole := refTo "#"
  let schemas := refTo "#/definitions/schemaArray"
  let texts := refTo "#/definitions/stringArray"
  Json.object
    [("$schema", .str identifier), ("$id", .str identifier),
      ("type", .ofTextList ["object", "boolean"]),
      ("definitions", Json.object
        [("schemaArray", listOf whole [nonEmpty]), ("nonNegativeInteger", naturals),
          ("nonNegativeIntegerDefault0", .obj [("allOf", .arr
            [refTo "#/definitions/nonNegativeInteger", .obj []])]),
          simpleTypes, ("stringArray", listOf text [different])]),
      ("properties", Json.object
        (each ["$id", "$ref"] (formatted "uri-reference") ++
          each ["title", "description", "format"] text ++
          each ["maximum", "minimum", "exclusiveMaximum", "exclusiveMinimum"] number ++
          each ["additionalItems", "additionalProperties", "contains", "propertyNames", "not"]
            whole ++
          each ["allOf", "anyOf", "oneOf"] schemas ++
          each ["enum", "examples"] (typed "array") ++
          sizeRules "#/definitions/nonNegativeInteger" "#/definitions/nonNegativeIntegerDefault0" ++
          mapRules whole [patternKeys] ["definitions", "properties"] ++
          [("$schema", formatted "uri"),
            ("multipleOf", Json.object [("type", .str "number"), ("exclusiveMinimum", .ofInt 0)]),
            ("pattern", formatted "regex"), ("items", either whole schemas),
            ("uniqueItems", flag), ("required", texts),
            ("dependencies", mapOf (either whole texts) []), ("const", .bool true),
            ("default", .bool true), typeRule "#/definitions/simpleTypes"] ++
          more whole))]

/-- The second dialect. -/
def draft6 : Json := legacy "http://json-schema.org/draft-06/schema#" fun _ => []

/-- The third dialect. -/
def draft7 : Json :=
  legacy "http://json-schema.org/draft-07/schema#" fun whole =>
    each ["if", "then", "else"] whole ++ each ["readOnly", "writeOnly"] flag ++
      each ["$comment", "contentMediaType", "contentEncoding"] text

/-! ## Dialects of several documents -/

/-- What distinguishes the documents of one dialect from those of another. -/
structure Family where
  /-- The front of all identifiers. -/
  location : String
  /-- What leads back to the whole dialect. -/
  whole : Json
  /-- What makes a document a place that such a reference leads to. -/
  mark : String × Json

/-- One document of a family. -/
def Family.document (f : Family) (name : String) (fields : List (String × Json)) : Json :=
  Json.object
    ([("$schema", .str (f.location ++ "schema")), ("$id", .str (f.location ++ name)), f.mark,
      ("type", .ofTextList ["object", "boolean"])] ++ fields)

/-- A vocabulary: its keywords and what they share. -/
def Family.vocabulary (f : Family) (name : String) (keywords shared : List (String × Json)) :
    Json :=
  f.document ("meta/" ++ name)
    (("properties", Json.object keywords) ::
      if shared.isEmpty then [] else [("$defs", Json.object shared)])

/-- The document that puts the vocabularies together and still describes two keywords of old. -/
def Family.summary (f : Family) (vocabularies : List String) (more : List (String × Json)) : Json :=
  f.document "schema"
    [("allOf", .arr (vocabularies.map fun name => refTo ("meta/" ++ name))),
      ("properties", Json.object
        ([("definitions", mapOf f.whole []),
          ("dependencies",
            mapOf (either f.whole (refTo "meta/validation#/$defs/stringArray")) [])] ++ more))]

/-- The keywords that apply schemas, but those for items. -/
def Family.applicators (f : Family) : List (String × Json) :=
  each ["contains", "additionalProperties", "propertyNames", "if", "then", "else", "not"] f.whole ++
    each ["allOf", "anyOf", "oneOf"] (refTo "#/$defs/schemaArray") ++
    mapRules f.whole [patternKeys] ["properties", "dependentSchemas"]

/-- What the keywords that apply schemas share. -/
def Family.schemaArray (f : Family) : List (String × Json) :=
  [("schemaArray", listOf f.whole [nonEmpty])]

/-- The vocabulary that limits values. -/
def Family.validation (f : Family) : Json :=
  let count := "#/$defs/nonNegativeInteger"
  let texts := refTo "#/$defs/stringArray"
  f.vocabulary "validation"
    (each ["maximum", "minimum", "exclusiveMaximum", "exclusiveMinimum"] number ++
      each ["maxContains", "minContains"] (refTo count) ++
      sizeRules count "#/$defs/nonNegativeIntegerDefault0" ++
      [("multipleOf", Json.object [("type", .str "number"), ("exclusiveMinimum", .ofInt 0)]),
        ("pattern", formatted "regex"), ("uniqueItems", flag), ("required", texts),
        ("dependentRequired", mapOf texts []), ("const", .bool true),
        ("enum", listOf (.bool true) []), typeRule "#/$defs/simpleTypes"])
    [("nonNegativeInteger", naturals), ("nonNegativeIntegerDefault0", refTo count), simpleTypes,
      ("stringArray", listOf text [different])]

/-- The vocabulary of annotations. -/
def Family.annotations (f : Family) : Json :=
  f.vocabulary "meta-data"
    (each ["title", "description"] text ++ each ["deprecated", "readOnly", "writeOnly"] flag ++
      [("default", .bool true), ("examples", listOf (.bool true) [])]) []

/-- The vocabulary of encoded contents. -/
def Family.content (f : Family) : Json :=
  f.vocabulary "content"
    (("contentSchema", f.whole) :: each ["contentMediaType", "contentEncoding"] text) []

/-- The vocabulary of formats under its name. -/
def Family.formats (f : Family) (name : String) : Json := f.vocabulary name [("format", text)] []

/-- The fourth dialect. -/
def draft2019 : List Json :=
  let f : Family :=
    ⟨"https://json-schema.org/draft/2019-09/", .obj [("$recursiveRef", .str "#")],
      ("$recursiveAnchor", .bool true)⟩
  [f.summary ["core", "applicator", "validation", "meta-data", "format", "content"] [],
    f.vocabulary "core"
      (each ["$ref", "$recursiveRef"] (formatted "uri-reference") ++
        [("$id", Json.object [("type", .str "string"), ("format", .str "uri-reference"),
            ("pattern", .str "^[^#]*#?$")]),
          ("$schema", formatted "uri"), ("$anchor", matching "^[A-Za-z][-A-Za-z0-9.:_]*$"),
          ("$recursiveAnchor", flag), ("$comment", text), ("$defs", mapOf f.whole []),
          ("$vocabulary", mapOf flag [("propertyNames", formatted "uri")])]) [],
    f.vocabulary "applicator"
      (("items", either f.whole (refTo "#/$defs/schemaArray")) ::
        each ["additionalItems", "unevaluatedItems", "unevaluatedProperties"] f.whole ++
        f.applicators) f.schemaArray,
    f.validation, f.annotations, f.formats "format", f.content]

/-- The latest dialect. -/
def draft2020 : List Json :=
  let f : Family :=
    ⟨"https://json-schema.org/draft/2020-12/", .obj [("$dynamicRef", .str "#meta")],
      ("$dynamicAnchor", .str "meta")⟩
  let anchor := refTo "#/$defs/anchorString"
  let reference := refTo "#/$defs/uriReferenceString"
  let uri := refTo "#/$defs/uriString"
  [f.summary ["core", "applicator", "unevaluated", "validation", "meta-data", "format-annotation",
      "content"]
      [("$recursiveAnchor", refTo "meta/core#/$defs/anchorString"),
        ("$recursiveRef", refTo "meta/core#/$defs/uriReferenceString")],
    f.vocabulary "core"
      (each ["$ref", "$dynamicRef"] reference ++ each ["$anchor", "$dynamicAnchor"] anchor ++
        [("$id", Json.object [("$ref", .str "#/$defs/uriReferenceString"),
            ("pattern", .str "^[^#]*#?$")]),
          ("$schema", uri), ("$comment", text), ("$defs", mapOf f.whole []),
          ("$vocabulary", mapOf flag [("propertyNames", uri)])])
      [("anchorString", matching "^[A-Za-z_][-A-Za-z0-9._]*$"), ("uriString", formatted "uri"),
        ("uriReferenceString", formatted "uri-reference")],
    f.vocabulary "applicator"
      (("items", f.whole) :: ("prefixItems", refTo "#/$defs/schemaArray") :: f.applicators)
      f.schemaArray,
    f.vocabulary "unevaluated" (each ["unevaluatedItems", "unevaluatedProperties"] f.whole) [],
    f.validation, f.annotations, f.formats "format-annotation", f.formats "format-assertion",
    f.content]

/-! ## All documents -/

/-- The documents with their dialects. -/
def documents : List (Dialect × Json) :=
  [(.draft4, draft4), (.draft6, draft6), (.draft7, draft7)] ++ draft2019.map (.draft2019, ·) ++
    draft2020.map (.draft2020, ·)

/-- All schemas in the documents. -/
def library : List Located :=
  documents.flatMap fun document => (locate? document.1 document.2).getD []

/-- The number of nodes of the documents. -/
def nodes : Nat := Json.nodesItems (documents.map (·.2))

end TaskEngine.Schema.Metaschema
