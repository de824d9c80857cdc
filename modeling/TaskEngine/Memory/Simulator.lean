import TaskEngine.Memory.RecordStore
import TaskEngine.Memory.Script

/-!
# The orchestrator in memory

Jobs, scheduled jobs, deployments and pods under names. A job takes the script in force when it is
made; every read of its status counts, and once enough have been made the status shows how the job
ends and does not change any more. Removing a job removes its pods and their logs. What completes the
names of jobs and pods is given from outside; by default jobs are numbered.
-/

namespace TaskEngine

/-- A job with what becomes of it. -/
structure SimulatedJob where
  /-- The job, with its current status. -/
  job : Cluster.Job
  /-- How often the status was read. The counter is taken not to overflow: one of thirty-two bits
  counts the same as long as the status of no job is read `2 ^ 32` times. -/
  reads : Nat
  /-- What becomes of it. -/
  script : Script
  deriving DecidableEq

namespace SimulatedJob

/-- The status of a job that ends now. -/
def finish (outcome : RunOutcome) (now : Instant) (status : Cluster.JobStatus) :
    Cluster.JobStatus :=
  match outcome with
  | .succeed =>
    { status with active := some 0, succeeded := some 1, completionTime := some now }
  | .fail => { status with active := some 0, failed := some 1 }
  | .hang => status

/-- Whether a status shows how the job ended. -/
def isFinal (status : Cluster.JobStatus) : Bool :=
  status.completionTime.isSome || 0 < status.failed.getD 0

/-- End a job if its status has been read often enough and it has not ended yet. -/
def advance (now : Instant) (j : SimulatedJob) : SimulatedJob :=
  let status := j.job.status.getD {}
  if j.script.outcome = .hang || j.reads < j.script.polls || isFinal status then j
  else { j with job := { j.job with status := some (finish j.script.outcome now status) } }

/-- Read the status of a job. -/
def read (now : Instant) (j : SimulatedJob) : SimulatedJob :=
  advance now { j with reads := j.reads + 1 }

end SimulatedJob

/-- What completes the name of a job or a pod: lower-case letters and digits. -/
structure NameSuffix where
  /-- The characters. -/
  chars : List Char
  /-- There is at least one. -/
  nonempty : chars ≠ []
  /-- Each is a lower-case letter or a digit. -/
  legal : chars.all Name.isAlnum = true
  deriving DecidableEq

namespace NameSuffix

/-- How many digits a number takes in the name of a job, at the least. -/
def digits : Nat := 5

/-- A decimal digit may stand in a name. -/
theorem isAlnum_of_isDigit {c : Char} (h : c.isDigit = true) : Name.isAlnum c = true := by
  have hbounds := Char.isDigit_iff_toNat.mp h
  simp only [Name.isAlnum, Bool.or_eq_true, Bool.and_eq_true, decide_eq_true_eq]
  exact .inr hbounds

/-- The digits of a number, filled up with zeros. -/
def ofNumber (number : Nat) : NameSuffix where
  chars := List.replicate (digits - (Nat.toDigits 10 number).length) '0' ++ Nat.toDigits 10 number
  nonempty h := Nat.toDigits_ne_nil (List.append_eq_nil_iff.mp h).2
  legal := by
    rw [List.all_append, Bool.and_eq_true]
    refine ⟨List.all_eq_true.mpr fun c hc => ?_, List.all_eq_true.mpr fun c hc => ?_⟩
    · rw [List.eq_of_mem_replicate hc]
      rfl
    · exact isAlnum_of_isDigit (Nat.isDigit_of_mem_toDigits (by decide) (by decide) hc)

/-- What completes the names of pods by default. -/
def pod : NameSuffix := ⟨['p', 'o', 'd'], by decide, by decide⟩

/-- The text of a suffix. -/
def text (s : NameSuffix) : String := String.ofList s.chars

end NameSuffix

/-- The state of the orchestrator. -/
structure Simulator where
  jobs : Dict SimulatedJob := ∅
  cronJobs : Dict Cluster.CronJob := ∅
  deployments : Dict Cluster.Deployment := ∅
  pods : Dict Cluster.Pod := ∅
  /-- The logs by pod and container. -/
  logs : Dict (Dict String) := ∅
  /-- What becomes of the jobs that are made from now on. -/
  script : Script := {}
  /-- How many jobs were made. -/
  created : Nat := 0
  /-- How many objects were written or removed. -/
  mutations : Nat := 0
  /-- What completes the name of the job with a number. -/
  jobSuffix : Nat → NameSuffix := NameSuffix.ofNumber
  /-- What completes the name of the pod of the job with a number. -/
  podSuffix : Nat → NameSuffix := fun _ => NameSuffix.pod

namespace Simulator

/-- The number of the next job. -/
def nextNumber (s : Simulator) : Nat := s.created + 1

/-- The name of the next job; a name that is given counts more than one to be completed. -/
def jobName (s : Simulator) (m : Cluster.Meta) : Outcome String :=
  match m.name, m.generateName with
  | some name, _ => .ok name
  | none, some start => .ok (start ++ (s.jobSuffix s.nextNumber).text)
  | none, none => .error (.malformed "job has neither name nor generateName")

/-- The name of the pod of the next job. -/
def podName (s : Simulator) (jobName : String) : String :=
  jobName ++ "-" ++ (s.podSuffix s.nextNumber).text

/-- Put a pod with logs in place. Logs of other containers under its name stay. -/
def insertPod (s : Simulator) (name : String) (pod : Cluster.Pod) (logs : Dict String) :
    Simulator :=
  { s with
    pods := s.pods.insert name pod
    logs :=
      if logs.isEmpty then s.logs
      else s.logs.insert name (((s.logs.get? name).getD ∅).insertAll logs.toList) }

/-- Make a job and its pod. A job without labels takes those of its template. -/
def createJob (s : Simulator) (now : Instant) (job : Cluster.Job) :
    Outcome (Cluster.Job × Simulator) := do
  let name ← s.jobName job.metadata
  WriteMode.create.demand WorkloadCall.jobResource name (s.jobs.contains name)
  let template := (job.spec.getD {}).template
  let labels := job.metadata.labels <|> (template.metadata.bind (·.labels))
  let made : SimulatedJob :=
    { job := { job with
        metadata := { job.metadata with name := some name, labels }
        status := some { active := some 1, startTime := some now } }
      reads := 0
      script := s.script }
  let made := made.advance now
  let podName := s.podName name
  let s := s.insertPod podName (s.script.pod podName name template) (s.script.logs template)
  return (made.job, { s with
    jobs := s.jobs.insert name made, created := s.created + 1, mutations := s.mutations + 1 })

/-- The names of the pods of a job. -/
def podsOf (s : Simulator) (jobName : String) : List String :=
  (s.pods.toList.filter fun p =>
    Cluster.Selector.accepts (podSelector jobName none) p.2.metadata.labels).map (·.1)

/-- Remove a job with its pods and their logs. -/
def removeJob (s : Simulator) (name : String) : Simulator :=
  let gone := s.podsOf name
  { s with
    jobs := s.jobs.erase name
    pods := gone.foldl Dict.erase s.pods
    logs := gone.foldl Dict.erase s.logs
    mutations := s.mutations + 1 }

/-- The objects whose labels a selector accepts, in the order of their names. -/
def select {α : Type} (objects : Dict α) (metadata : α → Cluster.Meta) (selector : String) :
    List α :=
  objects.values.filter fun o => Cluster.Selector.accepts selector (metadata o).labels

/-- The object under a name, or the error that there is none. -/
def find {α : Type} (objects : Dict α) (resource name : String) : Outcome α :=
  match objects.get? name with
  | some object => .ok object
  | none => .error (.notFound resource name)

/-- The objects with one more, or with one replaced. -/
def store {α : Type} (objects : Dict α) (resource : String) (metadata : Cluster.Meta)
    (object : α) (mode : WriteMode) : Outcome (Dict α) :=
  match metadata.name with
  | none => .error (WorkloadCall.unnamed resource)
  | some name => do
    mode.demand resource name (objects.contains name)
    return objects.insert name object

/-- An answer with the state after it; an error leaves the state as it was. -/
def settle {α : Type} (s : Simulator) (result : Outcome (α × Simulator)) : Outcome α × Simulator :=
  match result with
  | .ok (a, s) => (.ok a, s)
  | .error e => (.error e, s)

/-- Answer a call. -/
def answer (now : Instant) : (call : WorkloadCall) → Simulator → Outcome call.Reply × Simulator
  | .createJob job, s => s.settle (s.createJob now job)
  | .getJob name, s => s.settle do
    let found ← find s.jobs WorkloadCall.jobResource name
    let found := found.read now
    return (found.job, { s with jobs := s.jobs.insert name found })
  | .listJobs selector, s =>
    (.ok ((select s.jobs (·.job.metadata) selector).map (·.job)), s)
  | .deleteJob name, s => s.settle do
    let _ ← find s.jobs WorkloadCall.jobResource name
    return ((), s.removeJob name)
  | .applyCronJob object mode, s => s.settle do
    let cronJobs ← store s.cronJobs WorkloadCall.cronJobResource object.metadata object mode
    return (object, { s with cronJobs, mutations := s.mutations + 1 })
  | .getCronJob name, s => (find s.cronJobs WorkloadCall.cronJobResource name, s)
  | .listCronJobs selector, s => (.ok (select s.cronJobs (·.metadata) selector), s)
  | .deleteCronJob name, s => s.settle do
    let _ ← find s.cronJobs WorkloadCall.cronJobResource name
    return ((), { s with cronJobs := s.cronJobs.erase name, mutations := s.mutations + 1 })
  | .applyDeployment object mode, s => s.settle do
    let deployments ←
      store s.deployments WorkloadCall.deploymentResource object.metadata object mode
    return (object, { s with deployments, mutations := s.mutations + 1 })
  | .getDeployment name, s => (find s.deployments WorkloadCall.deploymentResource name, s)
  | .listDeployments selector, s => (.ok (select s.deployments (·.metadata) selector), s)
  | .deleteDeployment name, s => s.settle do
    let _ ← find s.deployments WorkloadCall.deploymentResource name
    return ((), { s with deployments := s.deployments.erase name, mutations := s.mutations + 1 })
  | .listPods selector, s => (.ok (select s.pods (·.metadata) selector), s)
  | .podLogs pod container, s =>
    (match (s.logs.get? pod).bind (·.get? container) with
      | some text => .ok text
      | none => .error (.notFound WorkloadCall.podResource (pod ++ "/" ++ container)), s)

end Simulator

end TaskEngine
