import TaskEngine.Dict

/-!
# Catalog records

Runners and tasks share one catalog of flat text records under one space of names. What a record
describes shows in which of its fields are filled in.
-/

namespace TaskEngine

/-- A flat map of texts, as the catalog and the secret store keep it. -/
abbrev Record := Dict String

namespace Record

/-- The text under a key, empty when there is none. -/
def field (record : Record) (key : String) : String := (record.get? key).getD ""

/-- The text under a key, unless it is empty. -/
def filled? (record : Record) (key : String) : Option String :=
  match record.get? key with
  | some value => if value.isEmpty then none else some value
  | none => none

end Record

/-- Whether a write makes a new object or replaces an existing one. -/
inductive WriteMode where
  /-- The name has to be free. -/
  | create
  /-- The name has to be taken. -/
  | update
  deriving DecidableEq, Repr

/-- The name of a write mode. -/
def WriteMode.name : WriteMode → String
  | .create => "create"
  | .update => "update"

/-- The write mode of a name. -/
def WriteMode.ofName? : String → Option WriteMode
  | "create" => some .create
  | "update" => some .update
  | _ => none

end TaskEngine
