import TaskEngine.Json.Basic
import TaskEngine.Text.Split

/-!
# Decoding typed values from JSON

A record is decoded by rules, one per field. The fields of an object are visited in key order and
the first bad one is reported; unknown fields are passed over; then the missing fields are reported
in the order of the rules. An array is accepted in place of an object when its items follow the
order of the rules. Errors are causes, worded in one place.
-/

namespace TaskEngine

/-- Why a JSON value does not decode. -/
inductive DecodeError where
  /-- A value of another type than expected. -/
  | type (got expected : String)
  /-- A value of the right type outside its range. -/
  | value (got expected : String)
  /-- A required field is absent. -/
  | missing (field : String)
  /-- A field is given twice, through an alias. -/
  | duplicate (field : String)
  /-- An enumeration has no such variant. -/
  | variant (got : String) (expected : List String)
  /-- A sequence has the wrong number of items. -/
  | length (got : Nat) (expected : String)
  /-- A value that its own type refuses. -/
  | refused (message : String)
  deriving DecidableEq, Repr

namespace DecodeError

/-- A name in the quotes of error texts. -/
def quoted (name : String) : String := "`" ++ name ++ "`"

/-- The listing of the variants of an enumeration. -/
def oneOf : List String → String
  | [] => "there are no variants"
  | [a] => "expected " ++ quoted a
  | [a, b] => "expected " ++ quoted a ++ " or " ++ quoted b
  | names => "expected one of " ++ Text.joinWith ", " (names.map quoted)

/-- The text of an error. -/
def message : DecodeError → String
  | .type got expected => "invalid type: " ++ got ++ ", expected " ++ expected
  | .value got expected => "invalid value: " ++ got ++ ", expected " ++ expected
  | .missing field => "missing field " ++ quoted field
  | .duplicate field => "duplicate field " ++ quoted field
  | .variant got expected => "unknown variant " ++ quoted got ++ ", " ++ oneOf expected
  | .length got expected => "invalid length " ++ toString got ++ ", expected " ++ expected
  | .refused message => message

end DecodeError

/-- The result of decoding. -/
abbrev Decoded := Except DecodeError

namespace Decode

/-- A character inside a quoted text of an error message. -/
def escapeDebug (c : Char) : List Char :=
  match c with
  | '"' => ['\\', '"']
  | '\\' => ['\\', '\\']
  | '\n' => ['\\', 'n']
  | '\r' => ['\\', 'r']
  | '\t' => ['\\', 't']
  | '\x00' => ['\\', '0']
  | c =>
    if isInvisible c.toNat then
      '\\' :: 'u' :: '\x7b' :: Nat.toDigits 16 c.toNat ++ ['\x7d']
    else [c]
where
  /-- Control, format, separator and private characters, which are written by number. -/
  isInvisible (n : Nat) : Bool :=
    n < 0x20 || (0x7F ≤ n && n < 0xA1) || n == 0xAD || n == 0x1680 ||
      (0x2000 ≤ n && n ≤ 0x200F) || (0x2028 ≤ n && n ≤ 0x202F) || (0x205F ≤ n && n ≤ 0x206F) ||
      n == 0x3000 || n == 0xFEFF || (0x300 ≤ n && n ≤ 0x36F) || (0xE000 ≤ n && n ≤ 0xF8FF) ||
      (0xFFF0 ≤ n && n ≤ 0xFFFB) || 0xE0000 ≤ n

/-- A text in quotes for an error message. -/
def quoteText (text : String) : String :=
  String.ofList ('"' :: text.toList.flatMap escapeDebug ++ ['"'])

/-- How an error message shows a double: always positional, always with a point. -/
def messageLayout : Number.FloatLayout := ⟨none, none, true⟩

/-- How an error message names a value. -/
def describe : Json → String
  | .null => "null"
  | .bool b => "boolean " ++ DecodeError.quoted (if b then "true" else "false")
  | .num (.int n) => "integer " ++ DecodeError.quoted (toString n)
  | .num (.float x) => "floating point " ++ DecodeError.quoted (messageLayout.render x)
  | .str s => "string " ++ quoteText s
  | .arr _ => "sequence"
  | .obj _ => "map"

/-- The error for a value of another type. -/
def mismatch {α : Type} (expected : String) (j : Json) : Decoded α :=
  .error (.type (describe j) expected)

/-- A string. -/
def text : Json → Decoded String
  | .str s => .ok s
  | j => mismatch "a string" j

/-- A truth value. -/
def bool : Json → Decoded Bool
  | .bool b => .ok b
  | j => mismatch "a boolean" j

/-- An integer in a range. -/
def intWithin (low high : Int) (expected : String) : Json → Decoded Int
  | .num (.int n) =>
    if low ≤ n ∧ n ≤ high then .ok n
    else .error (.value (describe (.num (.int n))) expected)
  | j => mismatch expected j

/-- A signed 32-bit integer. -/
def int32 : Json → Decoded Int := intWithin (-0x80000000) 0x7FFFFFFF "i32"

/-- A signed 64-bit integer. -/
def int64 : Json → Decoded Int := intWithin (-0x8000000000000000) 0x7FFFFFFFFFFFFFFF "i64"

/-- An unsigned 32-bit integer. -/
def nat32 (j : Json) : Decoded Nat := (intWithin 0 0xFFFFFFFF "u32" j).map Int.toNat

/-- An unsigned 64-bit integer. -/
def nat64 (j : Json) : Decoded Nat := (intWithin 0 0xFFFFFFFFFFFFFFFF "u64" j).map Int.toNat

/-- Any value at all. -/
def any (j : Json) : Decoded Json := .ok j

/-- A value, or null for none. -/
def optional {α : Type} (decode : Json → Decoded α) : Json → Decoded (Option α)
  | .null => .ok none
  | j => (decode j).map some

/-- A list of values. -/
def list {α : Type} (decode : Json → Decoded α) : Json → Decoded (List α)
  | .arr items => items.mapM decode
  | j => mismatch "a sequence" j

/-- An object whose fields share one type. -/
def dict {α : Type} (decode : Json → Decoded α) : Json → Decoded (Dict α)
  | .obj fields => do
    let entries ← fields.mapM fun (k, v) => do return (k, ← decode v)
    return Dict.ofList entries
  | j => mismatch "a map" j

/-- A free JSON object. -/
def object : Json → Decoded (Dict Json) := dict any

/-- An enumeration without contents: the name of a variant, alone or as the one key of an object
whose value is null. -/
def variant (names : List String) : Json → Decoded String
  | .str s => if s ∈ names then .ok s else .error (.variant s names)
  | .obj [(k, v)] =>
    if k ∈ names then
      match v with
      | .null => .ok k
      | v => mismatch "unit" v
    else .error (.variant k names)
  | .obj _ => .error (.value "map" "map with a single key")
  | j => mismatch "string or map" j

/-- What becomes of an absent field. -/
inductive Absence where
  /-- It is an error. -/
  | refused
  /-- It is left out of an object, but an array has to hold it. -/
  | left
  /-- It may be absent from both. -/
  | defaulted
  deriving DecidableEq

/-- The rule for one field of a record. -/
structure Rule where
  /-- The name of the field. -/
  name : String
  /-- Other names that objects may use for it. -/
  aliases : List String
  /-- What becomes of it when it is absent. -/
  absence : Absence
  /-- Whether a value decodes. -/
  check : Json → Decoded Unit

/-- A field that has to be there. -/
def Rule.required {α : Type} (name : String) (decode : Json → Decoded α) : Rule :=
  ⟨name, [], .refused, fun j => (decode j).map fun _ => ()⟩

/-- A field with a default value; null is no stand-in for it. -/
def Rule.defaulted {α : Type} (name : String) (decode : Json → Decoded α) : Rule :=
  ⟨name, [], .defaulted, fun j => (decode j).map fun _ => ()⟩

/-- A field that may be absent or null. -/
def Rule.nullable {α : Type} (name : String) (decode : Json → Decoded α) : Rule :=
  ⟨name, [], .defaulted, fun j => (optional decode j).map fun _ => ()⟩

/-- A field that may be null, or absent from an object. -/
def Rule.optionalInObject {α : Type} (name : String) (decode : Json → Decoded α) : Rule :=
  ⟨name, [], .left, fun j => (optional decode j).map fun _ => ()⟩

/-- The same rule under one more name. -/
def Rule.orNamed (rule : Rule) (other : String) : Rule :=
  { rule with aliases := other :: rule.aliases }

/-- The fields of a record under the names of their rules. -/
abbrev Fields := Dict Json

/-- Visit the fields of an object in order. -/
def visit (rules : List Rule) (seen : Fields) : List (String × Json) → Decoded Fields
  | [] => .ok seen
  | (key, value) :: rest =>
    match rules.find? fun rule => rule.name == key || rule.aliases.contains key with
    | none => visit rules seen rest
    | some rule =>
      if seen.contains rule.name then .error (.duplicate rule.name)
      else
        match rule.check value with
        | .error e => .error e
        | .ok () => visit rules (seen.insert rule.name value) rest

/-- The first absent field that has to be there. -/
def firstMissing? (rules : List Rule) (seen : Fields) : Option String :=
  (rules.find? fun rule => rule.absence == .refused && !seen.contains rule.name).map (·.name)

/-- Take the items of an array in the order of the rules. -/
def visitItems (rules : List Rule) (expected : String) (taken : Nat) (seen : Fields) :
    List Json → Decoded (Fields × List Json)
  | items =>
    match rules with
    | [] => .ok (seen, items)
    | rule :: later =>
      match items with
      | [] =>
        if rule.absence == .defaulted then visitItems later expected (taken + 1) seen []
        else .error (.length taken expected)
      | value :: rest =>
        match rule.check value with
        | .error e => .error e
        | .ok () => visitItems later expected (taken + 1) (seen.insert rule.name value) rest

/-- The fields of an object under the names of their rules. -/
def objectFields (rules : List Rule) (fields : List (String × Json)) : Decoded Fields := do
  let seen ← visit rules ∅ fields
  match firstMissing? rules seen with
  | some name => .error (.missing name)
  | none => return seen

/-- The fields of a record, given as an object or as an array. -/
def record (typeName : String) (rules : List Rule) : Json → Decoded Fields
  | .obj fields => objectFields rules fields
  | .arr items => do
    let count := rules.length
    let expected := typeName ++ " with " ++ toString count ++ (if count = 1 then " element" else " elements")
    let (seen, extra) ← visitItems rules expected 0 ∅ items
    if extra.isEmpty then return seen
    else .error (.length items.length "fewer elements in array")
  | j => mismatch typeName j

/-- The fields of a record that is given as an object only. -/
def objectRecord (typeName : String) (rules : List Rule) : Json → Decoded Fields
  | .obj fields => objectFields rules fields
  | j => mismatch typeName j

/-- A text that has to be a given one. -/
def constant (expected : String) (j : Json) : Decoded Unit := do
  let found ← text j
  if found = expected then return () else .error (.value (describe j) expected)

namespace Fields

/-- A field that is there. -/
def get {α : Type} (fields : Decode.Fields) (name : String) (decode : Json → Decoded α) : Decoded α :=
  match Dict.get? fields name with
  | some j => decode j
  | none => .error (.missing name)

/-- A field, or its default when it is absent. -/
def getD {α : Type} (fields : Decode.Fields) (name : String) (decode : Json → Decoded α)
    (default : α) : Decoded α :=
  match Dict.get? fields name with
  | some j => decode j
  | none => .ok default

/-- A field that may be absent or null. -/
def find {α : Type} (fields : Decode.Fields) (name : String) (decode : Json → Decoded α) :
    Decoded (Option α) :=
  match Dict.get? fields name with
  | some j => optional decode j
  | none => .ok none

end Fields

end Decode

end TaskEngine
