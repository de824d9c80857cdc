import TaskEngine.Cluster.Job
import TaskEngine.Workload.Label

/-!
# Scripted runs

Nothing is executed in memory. A script tells what becomes of a job: after how many reads of its
status it ends and how, what its containers have logged, and how their statuses look. One pod is made
for every job.
-/

namespace TaskEngine

/-- How a job ends. -/
inductive RunOutcome where
  | succeed
  | fail
  /-- It never ends. -/
  | hang
  deriving DecidableEq, Repr

/-- How the init container of a job fails. -/
inductive InitFailure where
  /-- Its image cannot be pulled. -/
  | imagePull
  /-- It ends with this code. -/
  | exit (code : Int)
  deriving DecidableEq, Repr

/-- What becomes of a job. -/
structure Script where
  /-- How the job ends. -/
  outcome : RunOutcome := .succeed
  /-- How often its status is read before it ends, a number below `2 ^ 32`. -/
  polls : Nat := 0
  /-- The log of the init containers. -/
  initLogs : String := ""
  /-- The log of the main containers. -/
  mainLogs : String := ""
  /-- How the init containers fail, if they do. -/
  initFailure : Option InitFailure := none
  /-- Whether the pod is never placed, so that it has neither status nor logs. -/
  unscheduled : Bool := false
  deriving DecidableEq, Repr

namespace Script

/-- A run that succeeds after some reads. -/
def succeeding (mainLogs : String) (polls : Nat) : Script :=
  { polls, initLogs := "Cloning into '.'...\n", mainLogs }

/-- A run that never ends. -/
def hanging : Script := { outcome := .hang }

/-- A run whose pod is never placed. -/
def pending : Script := { outcome := .hang, unscheduled := true }

/-- A run whose init container fails. -/
def initFailing (failure : InitFailure) : Script :=
  { outcome := .fail, initFailure := some failure }

/-- The state of a container that has ended. -/
def ended (code : Int) (reason : String) : Cluster.ContainerState :=
  { terminated := some { exitCode := code, reason := some reason } }

/-- The state of a container that fails in this way or else ends well, if it ends. -/
def state (failure : Option InitFailure) (isOver : Bool) (image : String) :
    Cluster.ContainerState :=
  match failure with
  | some .imagePull =>
    { waiting := some {
        reason := some "ErrImagePull"
        message := some ("failed to pull image \"" ++ image ++ "\"") } }
  | some (.exit code) => ended code "Error"
  | none => if isOver then ended 0 "Completed" else { running := some {} }

/-- The status of a container in a state that depends on its image. -/
def statusOf (state : String → Cluster.ContainerState) (c : Cluster.Container) :
    Cluster.ContainerStatus :=
  let image := c.image.getD ""
  { name := c.name, image, state := some (state image) }

/-- Whether the pod of the run comes to an end. -/
def isOver (s : Script) : Bool := s.outcome ≠ .hang

/-- The state of a main container. It waits for ever behind an init container that fails. -/
def mainState (s : Script) (image : String) : Cluster.ContainerState :=
  match s.initFailure, s.outcome with
  | some _, _ => { waiting := some { reason := some "PodInitializing" } }
  | none, .fail => state (some (.exit 1)) s.isOver image
  | none, _ => state none s.isOver image

/-- The status of the pod of a run. -/
def podStatus (s : Script) (spec : Cluster.PodSpec) : Cluster.PodStatus :=
  { initContainerStatuses := some
      ((spec.initContainers.getD []).map (statusOf (state s.initFailure s.isOver)))
    containerStatuses := some (spec.containers.map (statusOf s.mainState)) }

/-- The pod of a run of a job under a name. Its labels are those of the template and the label of its
job. -/
def pod (s : Script) (podName jobName : String) (template : Cluster.PodTemplate) : Cluster.Pod :=
  let labels := ((template.metadata.getD {}).labels.getD ∅).insert Label.job jobName
  let spec := template.spec.getD {}
  { metadata := { name := some podName, labels := some labels }
    spec := some spec
    status := if s.unscheduled then none else some (s.podStatus spec) }

/-- The logs of the pod of a run, by container. -/
def logs (s : Script) (template : Cluster.PodTemplate) : Dict String :=
  let spec := template.spec.getD {}
  let mainLogs := if s.initFailure.isSome then "" else s.mainLogs
  if s.unscheduled then ∅
  else
    Dict.ofList
      ((spec.initContainers.getD []).map (fun c => (c.name, s.initLogs)) ++
        spec.containers.map fun c => (c.name, mainLogs))

end Script

end TaskEngine
