import TaskEngine.Engine.Secrets

/-!
# Operations on tasks

A task is a record of the catalog and, if it has secret values, the secret of the same name. It has
to refer to a runner, and its schema has to be one. A task that a scheduled job or a deployment runs
cannot be removed.
-/

namespace TaskEngine.Engine

/-- The tasks in a scope, in the order of their names. -/
def listTasks (scope : AuthorizedIds) : Procedure (List TaskSummary) := do
  if scope.isEmpty then return []
  let records ← Procedure.catalog .list
  return (records.filter fun r => Task.isRecord r.2 && scope.permits r.1).map fun r =>
    TaskSummary.ofRecord r.1 r.2

/-- A task, with its secret values hidden. -/
def getTask (name : String) : Procedure Task := do
  let task ← loadTask name
  let secret ← redactedSecret name
  return { task with secret }

/-- Write a task and its secret. An update without secret values removes the stored ones. -/
def writeTask (task : Task) (mode : WriteMode) : Procedure Task := do
  Dialogue.lift task.validate
  if let some schema := task.schema then Dialogue.lift (Schema.check schema)
  let _ ← loadRunner task.runner
  let _ ← Procedure.catalog (.put task.name task.toRecord mode)
  match task.secret, mode with
  | some desired, _ =>
    let _ ← applySecret task.name desired
  | none, .update => Procedure.secrets (.delete task.name)
  | none, .create => pure ()
  getTask task.name

/-- Create a task. -/
def createTask (principal : Principal) (task : Task) : Procedure Task :=
  Procedure.audited principal .create .tasks task.name (writeTask task .create)

/-- Replace a task. -/
def updateTask (principal : Principal) (task : Task) : Procedure Task :=
  Procedure.audited principal .update .tasks task.name do
    let _ ← loadTask task.name
    writeTask task .update

/-- Remove a task that nothing runs, and its secret. -/
def deleteTask (principal : Principal) (name : String) : Procedure Unit :=
  Procedure.audited principal .delete .tasks name do
    let _ ← loadTask name
    let cronJobs ← Procedure.workloads (.listCronJobs (taskSelector name))
    if let c :: _ := cronJobs then
      Dialogue.fail (.dependency taskResource WorkloadCall.cronJobResource (c.metadata.name.getD ""))
    let deployments ← Procedure.workloads (.listDeployments (taskSelector name))
    if let d :: _ := deployments then
      Dialogue.fail
        (.dependency taskResource WorkloadCall.deploymentResource (d.metadata.name.getD ""))
    Procedure.catalog (.delete name)
    Procedure.secrets (.delete name)

/-! ## Schemas -/

/-- The schema of a task, if it has one. -/
def getSchema (taskName : String) : Procedure (Option Json) := do
  return (← loadTask taskName).schema

/-- Replace the schema of a task. -/
def updateSchema (principal : Principal) (taskName : String) (schema : Json) : Procedure Json :=
  Procedure.audited principal .update .tasks taskName do
    Dialogue.lift (Schema.check schema)
    let task ← loadTask taskName
    let _ ← Procedure.catalog
      (.put taskName { task with schema := some schema }.toRecord .update)
    return schema

/-- Remove the schema of a task; a task without one is not written. -/
def deleteSchema (principal : Principal) (taskName : String) : Procedure Unit :=
  Procedure.audited principal .update .tasks taskName do
    let task ← loadTask taskName
    if task.schema.isSome then
      let _ ← Procedure.catalog (.put taskName { task with schema := none }.toRecord .update)

end TaskEngine.Engine
