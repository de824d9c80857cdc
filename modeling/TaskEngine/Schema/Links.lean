import TaskEngine.Schema.Evaluate

/-!
# Links of a schema

Before a schema is used, the resources that its references name have to be there, and every schema
that applying it can reach is visited: its patterns have to be readable and its references have to
lead to schemas. What a reference names is visited once. Schemas that nothing applies, such as
unused definitions, are not visited.
-/

namespace TaskEngine.Schema

/-- The values of an object, if all its keys are readable patterns. -/
def patternSchemas? (fields : List (String × Json)) : Option (List Json) :=
  if fields.all fun field => (Pattern.read? field.1).isSome then some (fields.map (·.2)) else none

/-- The schemas inside the argument of a keyword that it applies; nothing when a pattern in it is
broken. -/
def appliedSchemas? (siblings : List (String × Json)) (keyword : String) (argument : Json) :
    Option (List Json) :=
  let fields := fieldsOf (some argument)
  match keyword with
  | "pattern" =>
    match argument with
    | .str pattern => (Pattern.read? pattern).map fun _ => []
    | _ => some []
  | "patternProperties" => patternSchemas? fields
  | "properties" | "dependentSchemas" => some (fields.map (·.2))
  | "dependencies" => some ((fields.map (·.2)).filter fun rule => rule.isObject)
  | "allOf" | "anyOf" | "oneOf" | "prefixItems" => some (itemsOf argument)
  | "items" =>
    match argument with
    | .arr schemas => some schemas
    | schema => some [schema]
  | "additionalItems" =>
    match Dict.lookup "items" siblings with
    | some (.arr _) => some [argument]
    | _ => some []
  | "additionalProperties" | "propertyNames" | "contains" | "not" | "unevaluatedItems"
  | "unevaluatedProperties" => some [argument]
  | "if" =>
    let branches := (Dict.lookup "then" siblings).toList ++ (Dict.lookup "else" siblings).toList
    some (if branches.isEmpty then [] else argument :: branches)
  | _ => some []

/-- A schema to be visited, and the name it was reached by if a reference led to it. -/
structure Visit where
  target : Target
  name : Option (Identifier × List Char)

/-- The schema that a keyword for references leads to, if it is one. -/
def referred? (s : Setting) (keyword : String) (argument : Json) : Option Visit := do
  let name ← Reference.name? s (← argument.text?)
  let target ← s.target? keyword argument
  if isSchema target.setting.dialect target.schema then some ⟨target, some name⟩ else none

/-- The visits that a schema leads to; nothing when a keyword is broken. -/
def nextVisits? : Target → Option (List Visit)
  | ⟨s, .obj keywords⟩ =>
    let effective := Keyword.effective s.dialect keywords
    let visitsOf (keyword : String) (argument : Json) : Option (List Visit) :=
      if isReferenceKeyword s.dialect keyword then (referred? s keyword argument).map ([·])
      else
        (appliedSchemas? effective keyword argument).map
          (List.map fun schema => ⟨s.inside schema, none⟩)
    (effective.mapM fun keyword => visitsOf keyword.1 keyword.2).map List.flatten
  | _ => some []

/-- Visit schemas one after the other, each name once; the fuel bounds the number of steps. -/
def visitLinks : (fuel : Nat) → (seen : List (Identifier × List Char)) → List Visit → Bool
  | _, _, [] => true
  | 0, _, _ :: _ => false
  | fuel + 1, seen, visit :: pending =>
    if visit.name.any seen.contains then visitLinks fuel seen pending
    else
      match nextVisits? visit.target with
      | none => false
      | some next => visitLinks fuel (visit.name.toList ++ seen) (next ++ pending)

/-- Whether a schema has no reference to a resource that is not there. -/
def hasResource (s : Setting) (located : Located) : Bool :=
  match (located.schema.field? "$ref").bind Json.text? with
  | some reference =>
    reference.toList.head? = some '#' ||
      (located.resolve? reference).any fun base => (s.resource? base).isSome
  | none => true

/-- Whether the identifiers of a root schema are in order, its references name resources that are
there, and the patterns and references that it can reach are in order. Between two visits of schemas
under new names no schema is visited more than once. -/
def areLinked (d : Dialect) (schema : Json) : Bool :=
  match locate? d schema with
  | none => false
  | some located =>
    let s := Setting.ofRoot d schema
    located.all (hasResource s) &&
      visitLinks ((extent schema + 1) * (extent schema + 1)) [] [⟨⟨s, schema⟩, none⟩]

end TaskEngine.Schema
