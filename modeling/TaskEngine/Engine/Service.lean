import TaskEngine.Engine.Runners
import TaskEngine.Engine.Tasks
import TaskEngine.Engine.Workloads

/-!
# The service

Every operation of the engine that a client can ask for, as one type of calls with one type of
replies. Mutations name the principal that acts. A call is carried out by the procedure of its
operation.
-/

namespace TaskEngine

/-- An operation of the engine with its arguments. -/
inductive ServiceCall where
  | listRunners (scope : AuthorizedIds)
  | getRunner (name : String)
  | createRunner (principal : Principal) (runner : Runner)
  | updateRunner (principal : Principal) (runner : Runner)
  | deleteRunner (principal : Principal) (name : String)
  | listTasks (scope : AuthorizedIds)
  | getTask (name : String)
  | createTask (principal : Principal) (task : Task)
  | updateTask (principal : Principal) (task : Task)
  | deleteTask (principal : Principal) (name : String)
  | getSchema (taskName : String)
  | updateSchema (principal : Principal) (taskName : String) (schema : Json)
  | deleteSchema (principal : Principal) (taskName : String)
  | getSecret (name : String)
  | updateSecret (principal : Principal) (name : String) (desired : Record)
  | deleteSecret (principal : Principal) (name : String)
  | listJobs (scope : AuthorizedIds)
  /-- Launch a task once. -/
  | createJob (principal : Principal) (taskName : String) (vars : Option String)
  | getJob (id : String) (owner : Option String)
  | getJobLog (id : String) (owner : Option String)
  | getJobData (id : String) (owner : Option String)
  | deleteJob (principal : Principal) (id : String)
  | listCronJobs (scope : AuthorizedIds)
  | getCronJob (name : String)
  | createCronJob (principal : Principal) (cronJob : CronJob)
  | updateCronJob (principal : Principal) (cronJob : CronJob)
  | deleteCronJob (principal : Principal) (name : String)
  | listDeployments (scope : AuthorizedIds)
  | getDeployment (name : String)
  | createDeployment (principal : Principal) (deployment : Deployment)
  | updateDeployment (principal : Principal) (deployment : Deployment)
  | deleteDeployment (principal : Principal) (name : String)

/-- What a call gives back. -/
inductive ServiceReply where
  /-- Nothing but the word that it is done. -/
  | done
  | runner (runner : Runner)
  | runners (runners : List Runner)
  | task (task : Task)
  | tasks (tasks : List TaskSummary)
  /-- A schema, if there is one. -/
  | schema (schema : Option Json)
  /-- A secret with its values hidden. -/
  | secret (secret : Record)
  | launch (launch : JobLaunch)
  | result (result : JobResult)
  | log (text : String)
  /-- The result that a job printed, if it did. -/
  | data (data : Option Json)
  | jobs (jobs : List JobSummary)
  | cronJob (cronJob : CronJob)
  | cronJobs (cronJobs : List CronJob)
  | deployment (deployment : Deployment)
  | deployments (deployments : List Deployment)
  deriving DecidableEq

namespace ServiceCall

/-- The procedure that carries out a call. -/
def procedure (config : EngineConfig) : ServiceCall → Procedure ServiceReply
  | .listRunners scope => .runners <$> Engine.listRunners scope
  | .getRunner name => .runner <$> Engine.getRunner name
  | .createRunner principal runner => .runner <$> Engine.createRunner principal runner
  | .updateRunner principal runner => .runner <$> Engine.updateRunner principal runner
  | .deleteRunner principal name => (fun _ => .done) <$> Engine.deleteRunner principal name
  | .listTasks scope => .tasks <$> Engine.listTasks scope
  | .getTask name => .task <$> Engine.getTask name
  | .createTask principal task => .task <$> Engine.createTask principal task
  | .updateTask principal task => .task <$> Engine.updateTask principal task
  | .deleteTask principal name => (fun _ => .done) <$> Engine.deleteTask principal name
  | .getSchema taskName => .schema <$> Engine.getSchema taskName
  | .updateSchema principal taskName schema =>
    (fun s => .schema (some s)) <$> Engine.updateSchema principal taskName schema
  | .deleteSchema principal taskName =>
    (fun _ => .done) <$> Engine.deleteSchema principal taskName
  | .getSecret name => .secret <$> Engine.getSecret name
  | .updateSecret principal name desired => .secret <$> Engine.updateSecret principal name desired
  | .deleteSecret principal name => (fun _ => .done) <$> Engine.deleteSecret principal name
  | .listJobs scope => .jobs <$> Engine.listJobs scope
  | .createJob principal taskName vars =>
    .launch <$> Engine.createJob config principal taskName vars
  | .getJob id owner => .result <$> Engine.getJob id owner
  | .getJobLog id owner => .log <$> Engine.getJobLog id owner
  | .getJobData id owner => .data <$> Engine.getJobData id owner
  | .deleteJob principal id => (fun _ => .done) <$> Engine.deleteJob principal id
  | .listCronJobs scope => .cronJobs <$> Engine.listCronJobs scope
  | .getCronJob name => .cronJob <$> Engine.getCronJob name
  | .createCronJob principal c => .cronJob <$> Engine.createCronJob config principal c
  | .updateCronJob principal c => .cronJob <$> Engine.updateCronJob config principal c
  | .deleteCronJob principal name => (fun _ => .done) <$> Engine.deleteCronJob principal name
  | .listDeployments scope => .deployments <$> Engine.listDeployments scope
  | .getDeployment name => .deployment <$> Engine.getDeployment name
  | .createDeployment principal d => .deployment <$> Engine.createDeployment config principal d
  | .updateDeployment principal d => .deployment <$> Engine.updateDeployment config principal d
  | .deleteDeployment principal name =>
    (fun _ => .done) <$> Engine.deleteDeployment principal name

end ServiceCall

end TaskEngine
