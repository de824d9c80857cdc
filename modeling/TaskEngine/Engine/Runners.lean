import TaskEngine.Engine.Secrets

/-!
# Operations on runners

A runner is a record of the catalog and, if it has a token, the secret of the same name. A runner
that a task refers to cannot be removed.
-/

namespace TaskEngine.Engine

/-- The runners in a scope, in the order of their names and without tokens. -/
def listRunners (scope : AuthorizedIds) : Procedure (List Runner) := do
  if scope.isEmpty then return []
  let records ← Procedure.catalog .list
  return (records.filter fun r => Runner.isRecord r.2 && scope.permits r.1).map fun r =>
    Runner.ofRecord r.1 r.2

/-- A runner. A stored token shows as a stand-in. -/
def getRunner (name : String) : Procedure Runner := do
  let runner ← loadRunner name
  let secret ← Procedure.secrets (.get name)
  if secret.any (·.contains Runner.tokenKey) then
    return { runner with token := some Secret.standIn }
  else return runner

/-- Write a runner and merge its token into its secret. -/
def writeRunner (runner : Runner) (mode : WriteMode) : Procedure Runner := do
  Dialogue.lift runner.validate
  let _ ← Procedure.catalog (.put runner.name runner.toRecord mode)
  if let some token := runner.token then
    let _ ← applySecret runner.name (Dict.ofList [(Runner.tokenKey, token)])
  getRunner runner.name

/-- Create a runner. -/
def createRunner (principal : Principal) (runner : Runner) : Procedure Runner :=
  Procedure.audited principal .create .runners runner.name (writeRunner runner .create)

/-- Replace a runner. -/
def updateRunner (principal : Principal) (runner : Runner) : Procedure Runner :=
  Procedure.audited principal .update .runners runner.name do
    let _ ← loadRunner runner.name
    writeRunner runner .update

/-- The first task that refers to a runner. -/
def dependentTask? (records : List (String × Record)) (runnerName : String) : Option String :=
  (records.find? fun r =>
    Task.isRecord r.2 && (TaskSummary.ofRecord r.1 r.2).runner = runnerName).map (·.1)

/-- Remove a runner that no task refers to, and its secret. -/
def deleteRunner (principal : Principal) (name : String) : Procedure Unit :=
  Procedure.audited principal .delete .runners name do
    let _ ← loadRunner name
    let records ← Procedure.catalog .list
    match dependentTask? records name with
    | some task => Dialogue.fail (.dependency runnerResource taskResource task)
    | none =>
      Procedure.catalog (.delete name)
      Procedure.secrets (.delete name)

end TaskEngine.Engine
