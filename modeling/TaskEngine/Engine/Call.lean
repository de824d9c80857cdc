import TaskEngine.Catalog.Record
import TaskEngine.Cluster.Deployment
import TaskEngine.Cluster.Job

/-!
# Calls on the stores and on the orchestrator

The engine keeps its definitions in a catalog, secret values in a secret store, and workloads in the
orchestrator. Each of the three is known by the calls that it answers; every call has its own type of
answer, and may fail.
-/

namespace TaskEngine

/-- A call on the catalog. -/
inductive CatalogCall where
  /-- The record under a name. -/
  | get (name : String)
  /-- All records in the order of their names. -/
  | list
  /-- Write a record. -/
  | put (name : String) (record : Record) (mode : WriteMode)
  /-- Remove a record. -/
  | delete (name : String)
  deriving DecidableEq

namespace CatalogCall

/-- The answer to a call. -/
abbrev Reply : CatalogCall → Type
  | .get _ => Option Record
  | .list => List (String × Record)
  | .put .. => Record
  | .delete _ => Unit

/-- The name of a call. -/
def name : CatalogCall → String
  | .get _ => "catalog.get"
  | .list => "catalog.list"
  | .put .. => "catalog.put"
  | .delete _ => "catalog.delete"

end CatalogCall

/-- A call on the secret store. -/
inductive SecretCall where
  /-- The secret under a name. -/
  | get (name : String)
  /-- Write a secret. -/
  | put (name : String) (secret : Record) (mode : WriteMode)
  /-- Remove a secret, if there is one. -/
  | delete (name : String)
  deriving DecidableEq

namespace SecretCall

/-- The answer to a call. -/
abbrev Reply : SecretCall → Type
  | .get _ => Option Record
  | .put .. => Unit
  | .delete _ => Unit

/-- The name of a call. -/
def name : SecretCall → String
  | .get _ => "secrets.get"
  | .put .. => "secrets.put"
  | .delete _ => "secrets.delete"

end SecretCall

/-- A call on the orchestrator. Listings take a label selector in text form. -/
inductive WorkloadCall where
  /-- Submit a job. -/
  | createJob (job : Cluster.Job)
  | getJob (name : String)
  | listJobs (selector : String)
  /-- Remove a job with its pods. -/
  | deleteJob (name : String)
  | applyCronJob (object : Cluster.CronJob) (mode : WriteMode)
  | getCronJob (name : String)
  | listCronJobs (selector : String)
  | deleteCronJob (name : String)
  | applyDeployment (object : Cluster.Deployment) (mode : WriteMode)
  | getDeployment (name : String)
  | listDeployments (selector : String)
  | deleteDeployment (name : String)
  | listPods (selector : String)
  /-- The log of a container of a pod. -/
  | podLogs (pod container : String)
  deriving DecidableEq

namespace WorkloadCall

/-- The answer to a call. -/
abbrev Reply : WorkloadCall → Type
  | .createJob _ | .getJob _ => Cluster.Job
  | .listJobs _ => List Cluster.Job
  | .applyCronJob .. | .getCronJob _ => Cluster.CronJob
  | .listCronJobs _ => List Cluster.CronJob
  | .applyDeployment .. | .getDeployment _ => Cluster.Deployment
  | .listDeployments _ => List Cluster.Deployment
  | .deleteJob _ | .deleteCronJob _ | .deleteDeployment _ => Unit
  | .listPods _ => List Cluster.Pod
  | .podLogs .. => String

/-- The name of a call. -/
def name : WorkloadCall → String
  | .createJob _ => "create_job"
  | .getJob _ => "get_job"
  | .listJobs _ => "list_jobs"
  | .deleteJob _ => "delete_job"
  | .applyCronJob .. => "apply_cron_job"
  | .getCronJob _ => "get_cron_job"
  | .listCronJobs _ => "list_cron_jobs"
  | .deleteCronJob _ => "delete_cron_job"
  | .applyDeployment .. => "apply_deployment"
  | .getDeployment _ => "get_deployment"
  | .listDeployments _ => "list_deployments"
  | .deleteDeployment _ => "delete_deployment"
  | .listPods _ => "list_pods"
  | .podLogs .. => "pod_logs"

end WorkloadCall

/-! ## What the stores call their objects in errors -/

/-- A record of the catalog. -/
def CatalogCall.resource : String := "config"

/-- A secret. -/
def SecretCall.resource : String := "secret"

namespace WorkloadCall

/-- A job. -/
def jobResource : String := "job"

/-- A scheduled job. -/
def cronJobResource : String := "cronjob"

/-- A deployment. -/
def deploymentResource : String := "deployment"

/-- A pod. -/
def podResource : String := "pod"

/-- The error for an object that is written without a name. -/
def unnamed (resource : String) : EngineError := .malformed (resource ++ " has no name")

end WorkloadCall

end TaskEngine
