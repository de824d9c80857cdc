import TaskEngine.Access
import TaskEngine.Cluster.Selector

/-!
# Labels of workloads

The engine finds its objects again by labels: who launched them, which task they run, which job or
deployment a pod belongs to.
-/

namespace TaskEngine

namespace Label

/-- The user that launched a workload. -/
def owner : String := "owner"

/-- The task that a workload runs. -/
def task : String := "task-name"

/-- The job that a pod belongs to. The orchestrator sets it. -/
def job : String := "job-name"

/-- The deployment that a pod belongs to. -/
def deployment : String := "deployment-name"

/-- The labels of every workload. -/
def ofWorkload (ownerName taskName : String) : Cluster.Labels :=
  Dict.ofList [(owner, ownerName), (task, taskName)]

/-- The labels by which a deployment finds its pods. They depend on its name alone. -/
def ofDeployment (name : String) : Cluster.Labels := Dict.ofList [(deployment, name)]

end Label

/-- The selector of the workloads of one task. -/
def taskSelector (name : String) : String := Cluster.Selector.render [.equals Label.task name]

/-- The selectors of all workloads of the tasks in a scope. -/
def AuthorizedIds.taskSelectors : AuthorizedIds → List String
  | .all => [Cluster.Selector.render [.present Label.task]]
  | .only names => names.map taskSelector

/-- The selector of the pods of a job, of one owner's only if an owner is given. -/
def podSelector (jobId : String) (ownerName : Option String) : String :=
  match ownerName with
  | some ownerName =>
    if ownerName.isEmpty then Cluster.Selector.render [.equals Label.job jobId]
    else Cluster.Selector.render [.equals Label.job jobId, .equals Label.owner ownerName]
  | none => Cluster.Selector.render [.equals Label.job jobId]

end TaskEngine
