import TaskEngine.Catalog.Record
import TaskEngine.Error
import TaskEngine.Json.Decode
import TaskEngine.Json.Printer
import TaskEngine.Json.Reader
import TaskEngine.Text.Blank

/-!
# Tasks

A task binds a shell command to a runner. Its input schema is kept in its record as JSON text and
read back on every load; its secret values live in the secret of the same name and are never part
of the record.
-/

namespace TaskEngine

/-- A command of the catalog. -/
structure Task where
  /-- The unique name. -/
  name : String
  /-- The runner that the command runs on. -/
  runner : String
  /-- The shell command. -/
  command : String
  /-- Whether a launch waits for the result. -/
  synchronous : Bool
  /-- The schema of the input. -/
  schema : Option Json
  /-- Secret values for the command. Reads show stand-ins. -/
  secret : Option Record
  deriving DecidableEq

/-- What a listing shows of a task. -/
structure TaskSummary where
  name : String
  runner : String
  command : String
  deriving DecidableEq, Repr

namespace Task

/-- What is wrong with the fields other than the name. -/
def findings (t : Task) : List String :=
  (if Text.isBlank t.runner then ["runner must not be empty"] else []) ++
    (if Text.isBlank t.command then ["command must not be empty"] else [])

/-- Refuse a malformed definition: the name first, then everything else at once. -/
def validate (t : Task) : Outcome Unit := do
  Name.demand t.name
  if t.findings.isEmpty then .ok ()
  else .error (.validation ("invalid task '" ++ t.name ++ "'") t.findings)

/-- Whether a record describes a task. -/
def isRecord (record : Record) : Bool := (record.filled? "runner").isSome

/-- The record of a task, without its secret. -/
def toRecord (t : Task) : Record :=
  Dict.ofList [("name", t.name), ("runner", t.runner), ("command", t.command),
    ("synchronous", if t.synchronous then "true" else "false"),
    ("schema", (t.schema.map Json.compact).getD "")]

/-- How the error for an unreadable stored schema begins. -/
def malformedSchema (name : String) : String := "task " ++ name ++ " has a malformed schema: "

/-- The task that a record describes; its schema has to be JSON text. -/
def ofRecord (name : String) (record : Record) : Outcome Task := do
  let schema ← match record.filled? "schema" with
    | none => .ok none
    | some text =>
      match Json.read? text with
      | some schema => .ok (some schema)
      | none => .error (.serialization (malformedSchema name ++ "not a JSON text"))
  return {
    name, schema, runner := record.field "runner", command := record.field "command"
    synchronous := (record.filled? "synchronous").any (Text.sameIgnoringCase · "true")
    secret := none }

def rules : List Decode.Rule :=
  [.required "name" Decode.text, .required "runner" Decode.text, .required "command" Decode.text,
    .defaulted "synchronous" Decode.bool, .nullable "schema" Decode.any,
    .nullable "secret" (Decode.dict Decode.text)]

/-- Read a task. -/
def decode (j : Json) : Decoded Task := do
  let f ← Decode.record "struct Task" rules j
  return {
    name := ← f.get "name" Decode.text
    runner := ← f.get "runner" Decode.text
    command := ← f.get "command" Decode.text
    synchronous := ← f.getD "synchronous" Decode.bool false
    schema := ← f.find "schema" Decode.any
    secret := ← f.find "secret" (Decode.dict Decode.text) }

/-- The JSON form; an absent schema or secret is left out. -/
def encode (t : Task) : Json :=
  .obj ([("name", .str t.name), ("runner", .str t.runner), ("command", .str t.command),
    ("synchronous", .bool t.synchronous)] ++ (t.schema.map fun s => ("schema", s)).toList ++
    (t.secret.map fun s => ("secret", Json.ofTexts s)).toList)

end Task

namespace TaskSummary

/-- The summary of the task that a record describes. -/
def ofRecord (name : String) (record : Record) : TaskSummary :=
  ⟨name, record.field "runner", record.field "command"⟩

def rules : List Decode.Rule :=
  [.required "name" Decode.text, .required "runner" Decode.text, .required "command" Decode.text]

/-- Read a summary. -/
def decode (j : Json) : Decoded TaskSummary := do
  let f ← Decode.record "struct TaskSummary" rules j
  return ⟨← f.get "name" Decode.text, ← f.get "runner" Decode.text, ← f.get "command" Decode.text⟩

/-- The JSON form. -/
def encode (t : TaskSummary) : Json :=
  .obj [("name", .str t.name), ("runner", .str t.runner), ("command", .str t.command)]

end TaskSummary

end TaskEngine
