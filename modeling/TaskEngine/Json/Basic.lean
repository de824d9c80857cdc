import TaskEngine.Dict
import TaskEngine.Json.Number

/-!
# JSON values

The one dynamic value of the engine: task schemas, invocation input and job results. An object is
a list of fields; `Json.object` and the reader sort the fields and keep the last of two with one
name, which is the canonical form. Two equalities are told apart: structural equality, and
`sameValue`, which compares numbers by value.
-/

namespace TaskEngine

/-- A JSON value. -/
inductive Json where
  | null
  | bool (value : Bool)
  | num (value : JsonNumber)
  | str (value : String)
  | arr (items : List Json)
  /-- The fields in the order in which they are printed. -/
  | obj (fields : List (String × Json))
  deriving Inhabited

namespace Json

mutual

/-- Structural equality. -/
def decEq : (a b : Json) → Decidable (a = b)
  | .null, .null => isTrue rfl
  | .bool x, .bool y => decidable_of_iff (x = y) (by simp)
  | .num x, .num y => decidable_of_iff (x = y) (by simp)
  | .str x, .str y => decidable_of_iff (x = y) (by simp)
  | .arr xs, .arr ys =>
    match decEqItems xs ys with
    | isTrue h => isTrue (by rw [h])
    | isFalse h => isFalse (by simpa using h)
  | .obj xs, .obj ys =>
    match decEqFields xs ys with
    | isTrue h => isTrue (by rw [h])
    | isFalse h => isFalse (by simpa using h)
  | .null, .bool _ | .null, .num _ | .null, .str _ | .null, .arr _ | .null, .obj _
  | .bool _, .null | .bool _, .num _ | .bool _, .str _ | .bool _, .arr _ | .bool _, .obj _
  | .num _, .null | .num _, .bool _ | .num _, .str _ | .num _, .arr _ | .num _, .obj _
  | .str _, .null | .str _, .bool _ | .str _, .num _ | .str _, .arr _ | .str _, .obj _
  | .arr _, .null | .arr _, .bool _ | .arr _, .num _ | .arr _, .str _ | .arr _, .obj _
  | .obj _, .null | .obj _, .bool _ | .obj _, .num _ | .obj _, .str _ | .obj _, .arr _ =>
    isFalse (by simp)

/-- Structural equality of items. -/
def decEqItems : (a b : List Json) → Decidable (a = b)
  | [], [] => isTrue rfl
  | [], _ :: _ | _ :: _, [] => isFalse (by simp)
  | x :: xs, y :: ys =>
    match decEq x y, decEqItems xs ys with
    | isTrue h, isTrue hs => isTrue (by rw [h, hs])
    | isFalse h, _ => isFalse (by simp [h])
    | _, isFalse hs => isFalse (by simp [hs])

/-- Structural equality of fields. -/
def decEqFields : (a b : List (String × Json)) → Decidable (a = b)
  | [], [] => isTrue rfl
  | [], _ :: _ | _ :: _, [] => isFalse (by simp)
  | (k, x) :: xs, (l, y) :: ys =>
    match decEq x y, decEqFields xs ys with
    | isTrue h, isTrue hs => decidable_of_iff (k = l) (by simp [h, hs])
    | isFalse h, _ => isFalse (by simp [h])
    | _, isFalse hs => isFalse (by simp [hs])

end

instance : DecidableEq Json := decEq

/-- An integer value. -/
def ofInt (n : Int) : Json := .num (.int n)

/-- The object of a dictionary. -/
def ofDict (fields : Dict Json) : Json := .obj fields.entries

/-- The object with these fields in canonical form; of two with one name the later stays. -/
def object (fields : List (String × Json)) : Json := ofDict (Dict.ofList fields)

/-- The object of the fields that are there, in canonical form. -/
def objectOf (fields : List (String × Option Json)) : Json :=
  object (fields.filterMap fun field => field.2.map (field.1, ·))

/-- The array of a list of texts. -/
def ofTextList (texts : List String) : Json := .arr (texts.map .str)

/-- The object of a text-valued dictionary. -/
def ofTexts (texts : Dict String) : Json := ofDict (texts.map .str)

/-- The fields of an object, in canonical order. -/
def dict? : Json → Option (Dict Json)
  | .obj fields => some (Dict.ofList fields)
  | _ => none

/-- A field of an object. -/
def field? (key : String) : Json → Option Json
  | .obj fields => Dict.lookup key fields
  | _ => none

/-- Whether the value is an object. -/
def isObject : Json → Bool
  | .obj _ => true
  | _ => false

/-- The text of a string value. -/
def text? : Json → Option String
  | .str s => some s
  | _ => none

mutual

/-- How deeply arrays and objects are nested. -/
def depth : Json → Nat
  | .arr items => depthItems items + 1
  | .obj fields => depthFields fields + 1
  | _ => 0

/-- The greatest depth among items. -/
def depthItems : List Json → Nat
  | [] => 0
  | x :: xs => max x.depth (depthItems xs)

/-- The greatest depth among fields. -/
def depthFields : List (String × Json) → Nat
  | [] => 0
  | (_, x) :: xs => max x.depth (depthFields xs)

end

mutual

/-- The number of values in a value, itself included. -/
def nodes : Json → Nat
  | .arr items => nodesItems items + 1
  | .obj fields => nodesFields fields + 1
  | _ => 1

/-- The number of values in a list of items. -/
def nodesItems : List Json → Nat
  | [] => 0
  | x :: xs => x.nodes + nodesItems xs

/-- The number of values in a list of fields. -/
def nodesFields : List (String × Json) → Nat
  | [] => 0
  | (_, x) :: xs => x.nodes + nodesFields xs

end

mutual

/-- Whether a test holds of a value or of one inside it. -/
def hasInside (test : Json → Bool) : Json → Bool
  | .arr items => test (.arr items) || hasInsideItems test items
  | .obj fields => test (.obj fields) || hasInsideFields test fields
  | value => test value

/-- Whether a test holds inside a list of items. -/
def hasInsideItems (test : Json → Bool) : List Json → Bool
  | [] => false
  | x :: xs => hasInside test x || hasInsideItems test xs

/-- Whether a test holds inside the values of a list of fields. -/
def hasInsideFields (test : Json → Bool) : List (String × Json) → Bool
  | [] => false
  | (_, x) :: xs => hasInside test x || hasInsideFields test xs

end

mutual

/-- Equality that compares numbers by value and objects by their fields in order. -/
def sameValue : Json → Json → Bool
  | .null, .null => true
  | .bool x, .bool y => x == y
  | .num x, .num y => x.sameValue y
  | .str x, .str y => x == y
  | .arr xs, .arr ys => sameItems xs ys
  | .obj xs, .obj ys => sameFields xs ys
  | _, _ => false

/-- Item by item equality by value. -/
def sameItems : List Json → List Json → Bool
  | [], [] => true
  | x :: xs, y :: ys => x.sameValue y && sameItems xs ys
  | _, _ => false

/-- Field by field equality by value. -/
def sameFields : List (String × Json) → List (String × Json) → Bool
  | [], [] => true
  | (k, x) :: xs, (l, y) :: ys => k == l && x.sameValue y && sameFields xs ys
  | _, _ => false

end

end Json

end TaskEngine
