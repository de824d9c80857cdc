import TaskEngine.Engine.Launch

/-!
# Secrets of runners and tasks

A secret belongs to the runner or task of its name. It is updated by merging and shown with its
values hidden; a secret without keys is not kept.
-/

namespace TaskEngine.Engine

/-- Merge an update into the secret under a name and write what has changed. -/
def applySecret (name : String) (desired : Record) : Procedure Secret.UpdateOutcome := do
  let current ← Procedure.secrets (.get name)
  let merged := Secret.merge (current.getD ∅) desired
  match current with
  | some stored =>
    if stored = merged then return .unchanged
    else if merged.isEmpty then
      Procedure.secrets (.delete name)
      return .deleted
    else
      Procedure.secrets (.put name merged .update)
      return .updated
  | none =>
    if merged.isEmpty then return .unchanged
    else
      Procedure.secrets (.put name merged .create)
      return .created

/-- The secret under a name with its values hidden. -/
def redactedSecret (name : String) : Procedure (Option Record) := do
  let secret ← Procedure.secrets (.get name)
  return secret.map Secret.redact

/-- What errors call the owner of a secret. -/
def ownerResource : String := "runner or task"

/-- The kind of the owner of a secret. -/
def ownerKind (name : String) : Procedure ResourceKind := do
  match ← Procedure.catalog (.get name) with
  | some record =>
    if Runner.isRecord record then return .runners
    else if Task.isRecord record then return .tasks
    else Dialogue.fail (.notFound ownerResource name)
  | none => Dialogue.fail (.notFound ownerResource name)

/-- The secret of a runner or task with its values hidden; empty when there is none. -/
def getSecret (name : String) : Procedure Record := do
  let _ ← ownerKind name
  return (← redactedSecret name).getD ∅

/-- The target of audit entries about the secret of an owner. -/
def secretTarget (name : String) : String := name ++ "/secret"

/-- Change the secret of a runner or task. The audit entry names the kind of the owner, and counts an
unknown owner as a task. -/
def changeSecret {α : Type} (principal : Principal) (action : AuditAction) (name : String)
    (change : Procedure α) : Procedure α := do
  let kind ← (ownerKind name).attempt
  let category := match kind with
    | .ok kind => kind
    | .error _ => .tasks
  Procedure.audited principal action category (secretTarget name) do
    let _ ← Dialogue.lift kind
    change

/-- Merge an update into the secret of a runner or task and show the result with its values hidden. -/
def updateSecret (principal : Principal) (name : String) (desired : Record) : Procedure Record :=
  changeSecret principal .update name do
    let _ ← applySecret name desired
    return (← redactedSecret name).getD ∅

/-- Remove the secret of a runner or task. -/
def deleteSecret (principal : Principal) (name : String) : Procedure Unit :=
  changeSecret principal .delete name do
    Procedure.secrets (.delete name)

end TaskEngine.Engine
