import TaskEngine.Cluster.Pod
import TaskEngine.Workload.Extraction

/-!
# Reports on the pods of a job

From the statuses of the pods follows why a job could not run, and which containers have started and
so have a log. The logs of all started containers make up the output of a job, each in a section of
its own, the init containers of a pod before its main ones.
-/

namespace TaskEngine

/-- Why a container could not do its work. -/
inductive ContainerFault where
  /-- Its image could not be pulled. -/
  | imagePull (image : String)
  /-- The repository could not be cloned. -/
  | clone
  deriving DecidableEq, Repr

namespace ContainerFault

/-- The text of a fault. -/
def message : ContainerFault → String
  | .imagePull image => "failed to pull " ++ image ++ " image"
  | .clone => "failed to clone repo: wrong repo url or incorrect credentials"

/-- The reasons for waiting that mean a failed pull. -/
def pullReasons : List String := ["ErrImagePull", "ImagePullBackOff", "InvalidImageName"]

/-- Why a container waits, if a reason is given. -/
def waitingReason? (status : Cluster.ContainerStatus) : Option String :=
  (status.state.bind (·.waiting)).bind (·.reason)

/-- Whether a container waits for an image that cannot be pulled. -/
def isPullFailure (status : Cluster.ContainerStatus) : Bool :=
  (waitingReason? status).any pullReasons.contains

/-- Whether a container has ended with an error. -/
def hasFailed (status : Cluster.ContainerStatus) : Bool :=
  (status.state.bind (·.terminated)).any fun t => t.exitCode ≠ 0

/-- The fault of a main container. -/
def ofMain? (status : Cluster.ContainerStatus) : Option ContainerFault :=
  if isPullFailure status then some (.imagePull status.image) else none

/-- The fault of an init container, whose work is to clone the repository. -/
def ofInit? (status : Cluster.ContainerStatus) : Option ContainerFault :=
  if isPullFailure status then some (.imagePull status.image)
  else if hasFailed status then some .clone
  else none

/-- The first fault in a pod, with the init containers before the main ones. -/
def ofPod? (pod : Cluster.Pod) : Option ContainerFault :=
  let status := pod.status.getD {}
  ((status.initContainerStatuses.getD []).findSome? ofInit?) <|>
    ((status.containerStatuses.getD []).findSome? ofMain?)

/-- The first fault in a list of pods. -/
def ofPods? (pods : List Cluster.Pod) : Option ContainerFault := pods.findSome? ofPod?

end ContainerFault

/-! ## Logs -/

/-- Whether the first status of a container says that it does not wait for some reason. -/
def isStarted (statuses : Option (List Cluster.ContainerStatus)) (container : String) : Bool :=
  ((statuses.getD []).find? fun s => s.name = container).any fun s =>
    (ContainerFault.waitingReason? s).isNone

/-- The names of the containers of a pod that have a log, in the order of the log. -/
def startedContainers (pod : Cluster.Pod) : List String :=
  match pod.spec with
  | none => []
  | some spec =>
    let status := pod.status.getD {}
    let started (containers : List Cluster.Container)
        (statuses : Option (List Cluster.ContainerStatus)) : List String :=
      (containers.map (·.name)).filter (isStarted statuses)
    started (spec.initContainers.getD []) status.initContainerStatuses ++
      started spec.containers status.containerStatuses

/-- The logs to read, each with the name of its pod and of its container. -/
def startedLogs (pods : List Cluster.Pod) : List (String × String) :=
  pods.flatMap fun pod =>
    (startedContainers pod).map fun container => (pod.metadata.name.getD "", container)

/-- The section of a container: a header line, the log, and a line end unless it has one. -/
def logSection (pod container text : String) : String :=
  "==> " ++ pod ++ "/" ++ container ++ " <==\n" ++ text ++
    (if text.toList.getLast?.any (· ≠ '\n') then "\n" else "")

/-- The output of a job. -/
structure JobOutput where
  /-- The sections of all started containers. -/
  stdout : String
  /-- The result among them. -/
  data : Option Json
  /-- Why the containers could not run. -/
  error : Option String
  deriving DecidableEq

/-- The output of a job whose pods are not there yet. -/
def JobOutput.pending : JobOutput := ⟨"", none, none⟩

end TaskEngine
