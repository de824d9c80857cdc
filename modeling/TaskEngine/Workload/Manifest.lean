import TaskEngine.Catalog.Runner
import TaskEngine.Catalog.Task
import TaskEngine.Cluster.Deployment
import TaskEngine.Workload.CronJob
import TaskEngine.Workload.Deployment
import TaskEngine.Workload.Job

/-!
# Manifests of workloads

Jobs, scheduled jobs and deployments share one template of pods. An init container clones the
repository of the runner into an empty volume; the main container then runs the command of the task
there, on the image of the runner, with the secret of the task as files and as variables. Both
containers are named after the task. The token of the repository shows in the clone command only.
-/

namespace TaskEngine

/-- What the manifests of a workload depend on. -/
structure Workload where
  /-- Where the command runs. -/
  runner : Runner
  /-- The command. -/
  task : Task
  /-- The user that it is attributed to. -/
  owner : String
  /-- The input, as JSON text. -/
  extraVars : Option String
  /-- The token of the repository. -/
  token : Option String

namespace Workload

/-- Where the repository is found in both containers. -/
def repositoryPath : String := "/mnt/repo"

/-- Where the secret of the task is found in the main container. -/
def secretPath : String := "/etc/secret/"

/-- The volume of the repository. -/
def repositoryVolume : String := "repo"

/-- The volume of the secret. -/
def secretVolume : String := "secret"

/-- How many failed pods of a job are replaced. -/
def backoffLimit : Int := 1

/-- The command line that a shell runs. -/
def shell (command : String) : List String := ["sh", "-c", command]

/-- The name of the init container of a task. -/
def initName (taskName : String) : String := "init-" ++ taskName

/-- The command that clones the repository. -/
def cloneCommand (w : Workload) : String :=
  "git clone -b " ++ w.runner.effectiveBranch ++ " " ++
    CloneUrl.withToken w.runner.gitUrl w.token ++ " ."

/-- The repository as a container sees it. -/
def repositoryMount : Cluster.VolumeMount :=
  { name := repositoryVolume, mountPath := repositoryPath }

/-- The container that clones the repository. -/
def initContainer (config : EngineConfig) (w : Workload) : Cluster.Container where
  name := initName w.task.name
  image := some config.gitImage
  command := some (shell w.cloneCommand)
  workingDir := some repositoryPath
  volumeMounts := some [repositoryMount]

/-- The container that runs the command of the task. -/
def mainContainer (w : Workload) : Cluster.Container where
  name := w.task.name
  image := some w.runner.image
  imagePullPolicy := some "IfNotPresent"
  command := some (shell w.task.command)
  workingDir := some repositoryPath
  env := ExtraVars.environment w.extraVars
  envFrom := some [{ secret := some { name := w.task.name, isOptional := some true } }]
  volumeMounts := some
    [{ name := secretVolume, mountPath := secretPath, readOnly := some true }, repositoryMount]

/-- The labels of the workload. -/
def labels (w : Workload) : Cluster.Labels := Label.ofWorkload w.owner w.task.name

/-- The template of the pods under a restart policy. -/
def podTemplate (config : EngineConfig) (w : Workload) (restartPolicy : String) :
    Cluster.PodTemplate where
  metadata := some { labels := some w.labels }
  spec := some {
    initContainers := some [w.initContainer config]
    containers := [w.mainContainer]
    restartPolicy := some restartPolicy
    volumes := some
      [{ name := secretVolume
         secret := some { secretName := some w.task.name, isOptional := some true } },
       { name := repositoryVolume, emptyDir := some {} }] }

/-- What a job of the workload runs, once or on a schedule. -/
def jobSpec (config : EngineConfig) (w : Workload) : Cluster.JobSpec where
  template := w.podTemplate config "Never"
  backoffLimit := some backoffLimit
  ttlSecondsAfterFinished := some config.jobsTtl

/-- The job that runs the workload once. The orchestrator completes its name. -/
def job (config : EngineConfig) (w : Workload) : Cluster.Job where
  metadata := { generateName := some (w.task.name ++ "-"), labels := some w.labels }
  spec := some (w.jobSpec config)

/-- The scheduled job that runs the workload. -/
def cronJob (config : EngineConfig) (w : Workload) (name schedule : String) (disabled : Bool) :
    Cluster.CronJob where
  metadata := { name := some name, labels := some w.labels }
  spec := some {
    schedule
    suspend := some disabled
    jobTemplate := { metadata := some { labels := some w.labels }, spec := some (w.jobSpec config) } }

/-- The deployment that keeps the workload running. It finds its pods by its name alone, so it can be
changed by anyone without losing them. -/
def deployment (config : EngineConfig) (w : Workload) (name : String) (replicas : Int) :
    Cluster.Deployment :=
  let selector := Label.ofDeployment name
  let template := w.podTemplate config "Always"
  { metadata := { name := some name, labels := some w.labels }
    spec := some {
      replicas := some replicas
      selector := { matchLabels := some selector }
      template := { template with
        metadata := some { labels := some (w.labels.insertAll selector.toList) } } } }

end Workload

end TaskEngine
