import TaskEngine.Engine.Launch

/-!
# Operations on workloads

Launched jobs, scheduled tasks and deployed tasks live in the orchestrator. Listings ask it once for
every task of the scope and merge the answers by name. The principal of a write becomes the owner of
the workload.
-/

namespace TaskEngine.Engine

/-- Ask for the objects of every selector and merge what they show by name. -/
def listMerged {α β : Type} (scope : AuthorizedIds) (list : String → Procedure (List α))
    (view : α → β) (name : β → String) : Procedure (List β) := do
  let batches ← Dialogue.each list scope.taskSelectors
  let views := batches.flatten.map view
  return (Dict.ofList (views.map fun v => (name v, v))).values

/-! ## Jobs -/

/-- The jobs of the tasks in a scope, in the order of their names. -/
def listJobs (scope : AuthorizedIds) : Procedure (List JobSummary) :=
  listMerged scope (fun s => Procedure.workloads (.listJobs s)) JobSummary.ofCluster JobSummary.id

/-- Launch a task once. -/
def createJob (config : EngineConfig) (principal : Principal) (taskName : String)
    (vars : Option String) : Procedure JobLaunch :=
  Procedure.audited principal .launch .jobs taskName (launch config taskName principal.name vars)

/-- The status, the logs and the result of a job. -/
def getJob (id : String) (owner : Option String) : Procedure JobResult := jobResult id owner

/-- The logs of a job. -/
def getJobLog (id : String) (owner : Option String) : Procedure String := do
  let pods ← findPods id owner
  readLogs pods

/-- The result of a job, if it printed one. -/
def getJobData (id : String) (owner : Option String) : Procedure (Option Json) := do
  return (← collectOutput id owner).data

/-- Remove a job and its pods. -/
def deleteJob (principal : Principal) (id : String) : Procedure Unit :=
  Procedure.audited principal .delete .jobs id (Procedure.workloads (.deleteJob id))

/-! ## Scheduled tasks -/

/-- The scheduled tasks in a scope, in the order of their names. -/
def listCronJobs (scope : AuthorizedIds) : Procedure (List CronJob) :=
  listMerged scope (fun s => Procedure.workloads (.listCronJobs s)) CronJob.ofCluster CronJob.name

/-- A scheduled task. -/
def getCronJob (name : String) : Procedure CronJob := do
  return CronJob.ofCluster (← Procedure.workloads (.getCronJob name))

/-- Create a scheduled task. -/
def createCronJob (config : EngineConfig) (principal : Principal) (c : CronJob) :
    Procedure CronJob :=
  Procedure.audited principal .create .cronJobs c.name
    (applyCronJob config { c with owner := principal.name } .create)

/-- Replace a scheduled task. -/
def updateCronJob (config : EngineConfig) (principal : Principal) (c : CronJob) :
    Procedure CronJob :=
  Procedure.audited principal .update .cronJobs c.name
    (applyCronJob config { c with owner := principal.name } .update)

/-- Remove a scheduled task. -/
def deleteCronJob (principal : Principal) (name : String) : Procedure Unit :=
  Procedure.audited principal .delete .cronJobs name (Procedure.workloads (.deleteCronJob name))

/-! ## Deployed tasks -/

/-- The deployed tasks in a scope, in the order of their names. -/
def listDeployments (scope : AuthorizedIds) : Procedure (List Deployment) :=
  listMerged scope (fun s => Procedure.workloads (.listDeployments s)) Deployment.ofCluster
    Deployment.name

/-- A deployed task. -/
def getDeployment (name : String) : Procedure Deployment := do
  return Deployment.ofCluster (← Procedure.workloads (.getDeployment name))

/-- Create a deployed task. -/
def createDeployment (config : EngineConfig) (principal : Principal) (d : Deployment) :
    Procedure Deployment :=
  Procedure.audited principal .create .deployments d.name
    (applyDeployment config { d with owner := principal.name } .create)

/-- Replace a deployed task. -/
def updateDeployment (config : EngineConfig) (principal : Principal) (d : Deployment) :
    Procedure Deployment :=
  Procedure.audited principal .update .deployments d.name
    (applyDeployment config { d with owner := principal.name } .update)

/-- Remove a deployed task. -/
def deleteDeployment (principal : Principal) (name : String) : Procedure Unit :=
  Procedure.audited principal .delete .deployments name
    (Procedure.workloads (.deleteDeployment name))

end TaskEngine.Engine
