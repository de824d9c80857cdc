import TaskEngine.Engine.Procedure
import TaskEngine.Workload.Label
import TaskEngine.Workload.PodReport

/-!
# Reading the output of a job

The pods of a job are found by its name, and by its owner if only an owner's jobs may be seen. The
logs of their started containers make up the output, which is scanned for a result.
-/

namespace TaskEngine.Engine

/-- What is said when a job has no pods that may be seen. -/
def noPods : String := "no pods found - check job ID"

/-- The pods of a job; there has to be one. -/
def findPods (jobId : String) (owner : Option String) : Procedure (List Cluster.Pod) := do
  let pods ← Procedure.workloads (.listPods (podSelector jobId owner))
  if pods.isEmpty then Dialogue.fail (.notFound WorkloadCall.jobResource noPods) else return pods

/-- The section of one log. -/
def readSection (log : String × String) : Procedure String := do
  let text ← Procedure.workloads (.podLogs log.1 log.2)
  return logSection log.1 log.2 text

/-- The sections of all started containers of pods. -/
def readLogs (pods : List Cluster.Pod) : Procedure String := do
  let sections ← Dialogue.each readSection (startedLogs pods)
  return Text.joinWith "" sections

/-- The output of a job. -/
def collectOutput (jobId : String) (owner : Option String) : Procedure JobOutput := do
  let pods ← findPods jobId owner
  let stdout ← readLogs pods
  let extraction := Extraction.ofText stdout
  Procedure.count (.extracted extraction.outcome)
  return ⟨stdout, extraction.data, (ContainerFault.ofPods? pods).map ContainerFault.message⟩

end TaskEngine.Engine
