import TaskEngine.Console.Report
import TaskEngine.Engine.Runners
import TaskEngine.Engine.Tasks
import TaskEngine.Engine.Workloads

/-!
# Carrying out commands

A command is a procedure of the engine that ends in what is to be printed. The command line is a
local installation: its user may see and do everything. A launch that is to be waited for, and that
the engine has not waited for already, is polled until the timeout; its result is printed either
way.
-/

namespace TaskEngine.Console

/-- What a command prints. -/
structure Printout where
  /-- The text for standard output. -/
  output : String
  /-- The remarks for standard error. -/
  remarks : List String := []
  deriving DecidableEq, Repr

/-- A text with a line end. -/
def Printout.line (text : String) : Printout := { output := text ++ "\n" }

namespace Invocation

/-- The identifiers of a kind that the user may see. -/
def visible (i : Invocation) (kind : ResourceKind) : AuthorizedIds :=
  AllowAll.visible {} i.principal kind

/-- What is remarked on a job that is still running after the timeout. -/
def stillRunning (jobId : String) (timeout : Nat) : String :=
  "Job " ++ jobId ++ " still running after " ++ toString timeout ++ "s"

/-- Wait for a launched job, and complete the launch by its result. -/
def await (engine : PollPolicy) (launch : JobLaunch) (timeout : Nat) :
    Procedure (JobLaunch × List String) := do
  let waited ← Engine.waitFor (waitPolicy engine timeout) launch.id
  let result ← Engine.getJob launch.id none
  let remarks := match waited with
    | .timedOut _ => [stillRunning launch.id timeout]
    | .completed _ => []
  return ({ launch with result := some result }, remarks)

/-- What is reported on a launch that fails. -/
def launchFailure (task : String) (e : EngineError) : String :=
  "failed to launch task '" ++ task ++ "': " ++ e.message

/-- Launch a task, and wait for its result if that is asked for. -/
def launch (i : Invocation) (config : EngineConfig) (task : String) (vars : Option String)
    (wait : Bool) (timeout : Nat) : Procedure (Except String Printout) := do
  match ← (Engine.createJob config i.principal task vars).attempt with
  | .error e => return .error (launchFailure task e)
  | .ok launch =>
    let (launch, remarks) ←
      if wait && launch.result.isNone then await config.syncPoll launch timeout
      else pure (launch, [])
    return .ok { Printout.line (renderLaunch i.format launch) with remarks }

/-- What is printed of the logs of a job. -/
def logsPrintout (format : OutputFormat) (jobId logs : String) : Printout :=
  match format with
  | .json => .line (Json.object [("id", .str jobId), ("stdout", .str logs)]).pretty
  | .text | .table => { output := logs }

/-- Carry out a command. A failed launch comes with a report of its own. -/
def execute (i : Invocation) (config : EngineConfig) : Procedure (Except String Printout) :=
  match i.command with
  | .runners => do
    let runners ← Engine.listRunners (i.visible .runners)
    return .ok (.line (ListingForm.runners.render i.format runners))
  | .tasks => do
    let tasks ← Engine.listTasks (i.visible .tasks)
    return .ok (.line (ListingForm.tasks.render i.format tasks))
  | .jobs => do
    let jobs ← Engine.listJobs (i.visible .jobs)
    return .ok (.line (ListingForm.jobs.render i.format jobs))
  | .run task vars wait timeout => i.launch config task vars wait timeout
  | .logs jobId owner => do
    return .ok (logsPrintout i.format jobId (← Engine.getJobLog jobId owner))
  | .result jobId owner => do
    return .ok (.line (renderResult i.format (← Engine.getJob jobId owner)))
  | .schema task => do
    return .ok (.line ((← Engine.getSchema task).getD (.obj [])).pretty)

end Invocation

end TaskEngine.Console
