import TaskEngine.Access
import TaskEngine.Time

/-!
# Audit trail

Every mutation leaves one entry: who did what to which object, and whether it succeeded. An entry
is drafted field by field and becomes complete once it names its actor, action, category and
target. A sink stamps complete entries with an identifier and a time; entries never carry secret
values.
-/

namespace TaskEngine

/-- What was done. -/
inductive AuditAction where
  | launch
  | create
  | update
  | delete
  deriving DecidableEq, Repr

/-- The name of an action. -/
def AuditAction.name : AuditAction → String
  | .launch => "launch"
  | .create => "create"
  | .update => "update"
  | .delete => "delete"

/-- Every action. -/
def AuditAction.all : List AuditAction := [.launch, .create, .update, .delete]

/-- Whether it succeeded. -/
inductive AuditStatus where
  | success
  | failure
  deriving DecidableEq, Repr

/-- The name of a status. -/
def AuditStatus.name : AuditStatus → String
  | .success => "success"
  | .failure => "failure"

/-- The content of an audit event. -/
structure AuditEntry where
  /-- The user that acted. -/
  actor : String
  /-- Where the user is known from, if that is known. -/
  provider : Option String
  /-- What was done. -/
  action : AuditAction
  /-- The kind of object it was done to. -/
  category : String
  /-- The name of that object. -/
  target : String
  /-- Whether it succeeded. -/
  status : AuditStatus
  deriving DecidableEq, Repr

/-- An audit entry as a sink records it. -/
structure AuditEvent where
  /-- The version of the event format. -/
  version : Nat
  /-- A unique identifier. -/
  id : String
  /-- When the event was recorded. -/
  timestamp : Instant
  /-- What happened. -/
  entry : AuditEntry
  deriving DecidableEq, Repr

/-- The version of the event format. -/
def AuditEvent.currentVersion : Nat := 1

/-- An audit entry that may still lack fields. -/
structure AuditDraft where
  actor : Option String
  provider : Option String
  action : Option AuditAction
  category : Option String
  target : Option String
  status : Option AuditStatus

/-- A required field that a draft lacks. -/
structure IncompleteEntry where
  field : String
  deriving DecidableEq, Repr

/-- The text of the error. -/
def IncompleteEntry.message (e : IncompleteEntry) : String :=
  "audit event missing required field: " ++ e.field

/-- Complete a draft. Fields are demanded in a fixed order; the status defaults to success. -/
def AuditDraft.complete (d : AuditDraft) : Except IncompleteEntry AuditEntry := do
  let demand {α : Type} (field : String) (value : Option α) : Except IncompleteEntry α :=
    match value with
    | some v => .ok v
    | none => .error ⟨field⟩
  let actor ← demand "actor" d.actor
  let action ← demand "action" d.action
  let category ← demand "category" d.category
  let target ← demand "target" d.target
  return ⟨actor, d.provider, action, category, target, d.status.getD .success⟩

/-- A line of the audit log. -/
structure AuditLine where
  /-- The severity. -/
  level : String
  /-- The named fields of the line. -/
  fields : Dict String

/-- The log line of an entry: failures are warnings. The identifier of the event is left out. -/
def AuditEntry.logLine (e : AuditEntry) : AuditLine :=
  { level := match e.status with
      | .success => "INFO"
      | .failure => "WARN"
    fields := Dict.ofList [("message", "audit_event"), ("actor", e.actor),
      ("action", e.action.name), ("category", e.category), ("target_name", e.target)] }

/-! ## JSON forms -/

/-- Read an action. -/
def AuditAction.decode : Json → Decoded AuditAction := Decode.member AuditAction.all AuditAction.name

/-- Read a status. -/
def AuditStatus.decode : Json → Decoded AuditStatus :=
  Decode.member [.success, .failure] AuditStatus.name

namespace AuditEntry

/-- The fields of the content of an event. -/
def fields (e : AuditEntry) : List (String × Json) :=
  [("actor", .str e.actor)] ++ (e.provider.map fun p => ("provider", Json.str p)).toList ++
    [("action", .str e.action.name), ("category", .str e.category), ("target", .str e.target),
      ("status", .str e.status.name)]

/-- The JSON form of the content, with the version of the event format. -/
def encode (e : AuditEntry) : Json :=
  Json.object (("eventVersion", .ofInt AuditEvent.currentVersion) :: e.fields)

end AuditEntry

namespace AuditEvent

def rules : List Decode.Rule :=
  [.required "eventVersion" Decode.nat32, .required "eventId" Decode.text,
    .required "timestamp" Instant.decode, .required "actor" Decode.text,
    .optionalInObject "provider" Decode.text, .required "action" AuditAction.decode,
    .required "category" Decode.text, .required "target" Decode.text,
    .required "status" AuditStatus.decode]

/-- Read an event. -/
def decode (j : Json) : Decoded AuditEvent := do
  let f ← Decode.record "struct AuditEvent" rules j
  return {
    version := ← f.get "eventVersion" Decode.nat32
    id := ← f.get "eventId" Decode.text
    timestamp := ← f.get "timestamp" Instant.decode
    entry := {
      actor := ← f.get "actor" Decode.text
      provider := ← f.find "provider" Decode.text
      action := ← f.get "action" AuditAction.decode
      category := ← f.get "category" Decode.text
      target := ← f.get "target" Decode.text
      status := ← f.get "status" AuditStatus.decode } }

/-- The JSON form. -/
def encode (e : AuditEvent) : Json :=
  Json.object ([("eventVersion", .ofInt e.version), ("eventId", .str e.id),
    ("timestamp", e.timestamp.encode)] ++ e.entry.fields)

end AuditEvent

end TaskEngine
