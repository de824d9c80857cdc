import TaskEngine.Schema.Dialect
import TaskEngine.Schema.Identifier

/-!
# Schemas in their scope

A schema is read by a dialect and against the identifier of the resource that it is part of. Both
come from what is around it unless the schema names its own. Only what the dialect takes for schemas
is searched for identifiers and anchors.
-/

namespace TaskEngine.Schema

/-! ## Where schemas stand -/

/-- What a value inside a schema is: a schema, a collection of schemas, or neither. -/
inductive Position where
  | schema
  | collection
  | other
  deriving DecidableEq, Repr

/-- What stands under a keyword of this form. -/
def KeywordForm.position (value : Json) : KeywordForm → Position
  | .schema | .schemaOrFlag => .schema
  | .schemas | .schemaMap | .patternMap | .dependencyMap _ => .collection
  | .schemaOrSchemas =>
    match value with
    | .arr _ => .collection
    | _ => .schema
  | _ => .other

/-- What stands under a key of something. -/
def Position.inside (d : Dialect) (key : String) (value : Json) : Position → Position
  | .schema => ((KeywordForm.of? d key).map (·.position value)).getD .other
  | .collection => .schema
  | .other => .other

/-- The members of a collection. -/
def membersOf : Json → List Json
  | .arr items => items
  | .obj fields => fields.map (·.2)
  | _ => []

/-- The schemas directly inside a schema. -/
def subschemas (d : Dialect) : Json → List Json
  | .obj fields => fields.flatMap fun field =>
    match Position.schema.inside d field.1 field.2 with
    | .schema => [field.2]
    | .collection => membersOf field.2
    | .other => []
  | _ => []

/-! ## Names -/

/-- The identifier that a schema gives itself, without number signs at its end. Up to the third
dialect there is none beside a reference, and a name after a number sign is an anchor. -/
def ownIdentifier? (d : Dialect) (schema : Json) : Option String := do
  let id ← (← schema.field? d.idKey).text?
  let isHidden := (schema.field? "$ref").isSome || id.toList.head? = some '#'
  if !d.atLeast .draft2019 && isHidden then none
  else some (String.ofList (id.toList.reverse.dropWhile (· = '#')).reverse)

/-- The name that a key gives to a schema. -/
def nameUnder (key : String) (schema : Json) : List (List Char) :=
  ((schema.field? key).bind Json.text?).toList.map String.toList

/-- The anchors of a schema, each with whether it is a dynamic one. -/
def anchorsOf (d : Dialect) (schema : Json) : List (List Char × Bool) :=
  match d with
  | .draft2020 =>
    (nameUnder "$anchor" schema).map (·, false) ++ (nameUnder "$dynamicAnchor" schema).map (·, true)
  | .draft2019 => (nameUnder "$anchor" schema).map (·, false)
  | old =>
    (nameUnder old.idKey schema).filterMap fun name =>
      match name with
      | '#' :: name => some (name, false)
      | _ => none

/-! ## Scopes -/

/-- What a schema is read by. -/
structure Scope where
  dialect : Dialect
  /-- The identifier that references are resolved against. -/
  base : Identifier
  deriving DecidableEq

/-- The identifier of a text against that of a scope. -/
def Scope.resolve? (s : Scope) (text : String) : Option Identifier :=
  (Identifier.read? text).bind fun reference => s.base.resolve? reference.1

/-- The scope of a schema inside another one, if the dialect and the identifier that it names for
itself are in order. -/
def Scope.enter? (s : Scope) (schema : Json) : Option Scope := do
  let dialect ← s.dialect.detect? schema
  match ownIdentifier? dialect schema with
  | some id => (s.resolve? id).map fun base => ⟨dialect, base⟩
  | none => some ⟨dialect, s.base⟩

/-- The scope around a whole schema, which is that of its identifier already. -/
def Scope.ofRoot? (d : Dialect) (schema : Json) : Option Scope := Scope.enter? ⟨d, .unnamed⟩ schema

/-- A schema in its scope. -/
structure Located extends Scope where
  schema : Json

/-- A schema and all schemas inside it in their scopes. The fuel bounds the nesting. -/
def locateWithin : (fuel : Nat) → Scope → Json → Option (List Located)
  | 0, _, _ => none
  | fuel + 1, s, schema => do
    let s ← s.enter? schema
    let inner ← (subschemas s.dialect schema).mapM (locateWithin fuel s)
    some (⟨s, schema⟩ :: inner.flatten)

/-- A whole schema and all schemas inside it. The whole is found under its identifier as that
stands, too. -/
def locate? (d : Dialect) (schema : Json) : Option (List Located) := do
  let outer ← Scope.ofRoot? d schema
  let located ← locateWithin (schema.depth + 1) outer schema
  some (⟨outer, schema⟩ :: located)

end TaskEngine.Schema
