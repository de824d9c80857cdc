import TaskEngine.Catalog.Secret
import TaskEngine.Engine.Output
import TaskEngine.Engine.Wait
import TaskEngine.Schema.Input
import TaskEngine.Workload.Manifest

/-!
# Launching tasks

Every launch is prepared in the same way before anything is submitted: the task and its runner are
loaded, the input is judged by the schema of the task, and the token of the runner is read. Blank
input counts as no input. Rejected input leaves nothing behind but a count.
-/

namespace TaskEngine

/-- A launch that is ready to be submitted. -/
structure Preparation where
  /-- The task. -/
  task : Task
  /-- The runner of the task. -/
  runner : Runner
  /-- The token of the repository. -/
  token : Option String
  /-- The input, unless it is blank. -/
  extraVars : Option String
  deriving DecidableEq

/-- What the manifests of a prepared launch depend on. -/
def Preparation.workload (p : Preparation) (owner : String) : Workload where
  runner := p.runner
  task := p.task
  owner := owner
  extraVars := p.extraVars
  token := p.token

/-- Judge input by a schema. Without a schema, input only has to be JSON text. -/
def Schema.judge (schema : Option Json) (input : Option String) : Outcome Unit :=
  match schema, input with
  | some schema, input => Schema.validate schema (input.getD "")
  | none, some raw => (Schema.parseInput raw).map fun _ => ()
  | none, none => .ok ()

namespace Engine

/-- What errors call a task. -/
def taskResource : String := "task"

/-- What errors call a runner. -/
def runnerResource : String := "runner"

/-- Load a task. -/
def loadTask (name : String) : Procedure Task := do
  match ← Procedure.catalog (.get name) with
  | some record =>
    if Task.isRecord record then Dialogue.lift (Task.ofRecord name record)
    else Dialogue.fail (.notFound taskResource name)
  | none => Dialogue.fail (.notFound taskResource name)

/-- Load a runner. -/
def loadRunner (name : String) : Procedure Runner := do
  match ← Procedure.catalog (.get name) with
  | some record =>
    if Runner.isRecord record then return Runner.ofRecord name record
    else Dialogue.fail (.notFound runnerResource name)
  | none => Dialogue.fail (.notFound runnerResource name)

/-- Prepare a launch. -/
def prepare (taskName : String) (vars : Option String) : Procedure Preparation := do
  let task ← loadTask taskName
  let runner ← loadRunner task.runner
  let extraVars := vars.filter fun raw => !Text.isBlank raw
  match Schema.judge task.schema extraVars with
  | .error e =>
    Procedure.count .rejected
    Dialogue.fail e
  | .ok () =>
    let secret ← Procedure.secrets (.get runner.name)
    return { task, runner, token := secret.bind (Record.filled? · Runner.tokenKey), extraVars }

/-- The status, the logs and the result of a job. A job that is not finished may have no pods yet. -/
def assemble (job : Cluster.Job) (owner : Option String) : Procedure JobResult := do
  let summary := JobSummary.ofCluster job
  let output ← match ← (collectOutput summary.id owner).attempt with
    | .ok output => pure output
    | .error e =>
      if e.isNotFound && !summary.isFinished then pure JobOutput.pending else Dialogue.fail e
  return { summary, stdout := output.stdout, data := output.data, error := output.error }

/-- The status, the logs and the result of a job by its name. -/
def jobResult (jobId : String) (owner : Option String) : Procedure JobResult := do
  let job ← Procedure.workloads (.getJob jobId)
  assemble job owner

/-- Wait for a job and measure the wait. -/
def waitMeasured (policy : PollPolicy) (jobId : String) : Procedure WaitOutcome := do
  let started ← Procedure.clock
  let waited ← (waitFor policy jobId).attempt
  let ended ← Procedure.clock
  let result := match waited with
    | .ok outcome => outcome.result
    | .error _ => .error
  Procedure.count (.waited result (ended - started))
  Dialogue.lift waited

/-- Launch a task once. The launch of a synchronous task waits for the result. -/
def launch (config : EngineConfig) (taskName owner : String) (vars : Option String) :
    Procedure JobLaunch := do
  let ready ← prepare taskName vars
  let created ← Procedure.workloads (.createJob ((ready.workload owner).job config))
  let id := created.metadata.name.getD ""
  Procedure.count (.launched (if ready.task.synchronous then .sync else .async))
  if ready.task.synchronous then
    let waited ← waitMeasured config.syncPoll id
    let result ← assemble waited.job (some owner)
    return { id, result := some result }
  else return { id, result := none }

/-- Write a scheduled task. -/
def applyCronJob (config : EngineConfig) (c : CronJob) (mode : WriteMode) : Procedure CronJob := do
  Dialogue.lift c.validate
  let ready ← prepare c.task (ExtraVars.encode c.extraVars)
  let object := (ready.workload c.owner).cronJob config c.name (Text.trim c.schedule) c.disabled
  let applied ← Procedure.workloads (.applyCronJob object mode)
  Procedure.count (.launched .cron)
  return CronJob.ofCluster applied

/-- Write a deployed task. -/
def applyDeployment (config : EngineConfig) (d : Deployment) (mode : WriteMode) :
    Procedure Deployment := do
  Dialogue.lift d.validate
  let ready ← prepare d.task (ExtraVars.encode d.extraVars)
  let object := (ready.workload d.owner).deployment config d.name d.replicas
  let applied ← Procedure.workloads (.applyDeployment object mode)
  Procedure.count (.launched .deployment)
  return Deployment.ofCluster applied

end Engine

end TaskEngine
