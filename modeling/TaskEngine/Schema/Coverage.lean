import TaskEngine.Schema.Reference

/-!
# Coverage

Two keywords speak of the properties and items that nothing else in their schema speaks of. A
schema covers a place of an instance when one of its keywords applies to the place and accepts what
stands there, or when a schema that applies to the whole instance and accepts it covers the place.
-/

namespace TaskEngine.Schema

/-- A place directly inside an instance. -/
inductive Place where
  | key (name : String)
  | index (position : Nat)
  deriving DecidableEq, Repr

/-- The places inside a value and what stands there. -/
def Place.all : Json → List (Place × Json)
  | .obj fields => fields.map fun field => (.key field.1, field.2)
  | .arr items => items.zipIdx.map fun item => (.index item.2, item.1)
  | _ => []

/-- The fields of a keyword's argument; none when it is no object. -/
def fieldsOf (argument : Option Json) : List (String × Json) :=
  match argument with
  | some (.obj fields) => fields
  | _ => []

/-- The items of a keyword's argument; none when it is no array. -/
def itemsOf : Json → List Json
  | .arr items => items
  | _ => []

/-- Whether a pattern matches somewhere in a key. -/
def matchesPattern (pattern key : String) : Bool :=
  match Pattern.read? pattern with
  | some p => p.matches? key
  | none => false

/-- The places of an instance that a schema covers. The fuel bounds the chain of schemas that apply
to one instance; `accepts` tells whether a schema accepts a value. -/
def coveredPlaces (accepts : Target → Json → Bool) :
    (fuel : Nat) → (target : Target) → (value : Json) → List Place
  | 0, _, _ => []
  | fuel + 1, ⟨s, .obj keywords⟩, value =>
    let inner (schema v : Json) : Bool := accepts (s.inside schema) v
    let whole (targets : List Target) : List Place :=
      (targets.filter (accepts · value)).flatMap (coveredPlaces accepts fuel · value)
    let places (covers : Place → Json → Bool) : List Place :=
      (Place.all value).filterMap fun place =>
        if covers place.1 place.2 then some place.1 else none
    let index (covers : Nat → Json → Bool) : List Place :=
      places fun
        | .index i, v => covers i v
        | .key _, _ => false
    let key (covers : String → Json → Bool) : List Place :=
      places fun
        | .key k, v => covers k v
        | .index _, _ => false
    keywords.flatMap fun (keyword, argument) =>
      match keyword with
      | "properties" => key fun k v => (Dict.lookup k (fieldsOf argument)).any (inner · v)
      | "patternProperties" => key fun k v =>
        (fieldsOf argument).any fun rule => matchesPattern rule.1 k && inner rule.2 v
      | "additionalProperties" | "unevaluatedProperties" => key fun _ v => inner argument v
      | "dependentSchemas" =>
        whole ((fieldsOf argument).filterMap fun rule =>
          if (value.field? rule.1).isSome then some (s.inside rule.2) else none)
      | "allOf" | "anyOf" | "oneOf" => whole ((itemsOf argument).map s.inside)
      | "if" =>
        let branch := if inner argument value then "then" else "else"
        whole ((argument :: (Dict.lookup branch keywords).toList).map s.inside)
      | "$ref" | "$dynamicRef" | "$recursiveRef" => whole (s.target? keyword argument).toList
      | "prefixItems" => index fun i _ => i < (itemsOf argument).length
      | "items" =>
        match argument with
        | .arr items => index fun i _ => i < items.length
        | _ => index fun _ _ => true
      | "additionalItems" => index fun _ _ => true
      | "unevaluatedItems" => index fun _ v => inner argument v
      | "contains" =>
        if s.dialect = .draft2020 then index fun _ v => inner argument v else []
      | _ => []
  | _, _, _ => []

end TaskEngine.Schema
