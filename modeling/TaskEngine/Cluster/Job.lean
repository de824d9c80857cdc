import TaskEngine.Cluster.Pod

/-!
# Jobs of the cluster

A job runs pods to completion; a scheduled job makes a new job at every tick of its schedule.
-/

namespace TaskEngine.Cluster

/-- What a job runs. -/
structure JobSpec where
  template : PodTemplate := {}
  /-- How many failed pods are replaced. -/
  backoffLimit : Option Int := none
  /-- How many seconds the finished job is kept. -/
  ttlSecondsAfterFinished : Option Int := none
  parallelism : Option Int := none
  completions : Option Int := none
  suspend : Option Bool := none
  deriving DecidableEq

/-- The status of a job. -/
structure JobStatus where
  /-- The number of pods that have not ended. -/
  active : Option Int := none
  /-- The number of pods that succeeded. -/
  succeeded : Option Int := none
  /-- The number of pods that failed. -/
  failed : Option Int := none
  startTime : Option Instant := none
  completionTime : Option Instant := none
  ready : Option Int := none
  deriving DecidableEq

/-- A job. -/
structure Job where
  metadata : Meta := {}
  spec : Option JobSpec := none
  status : Option JobStatus := none
  deriving DecidableEq

/-- The description of the jobs of a schedule. -/
structure JobTemplate where
  metadata : Option Meta := none
  spec : Option JobSpec := none
  deriving DecidableEq

/-- What a scheduled job runs, and when. -/
structure CronJobSpec where
  schedule : String := ""
  suspend : Option Bool := none
  timeZone : Option String := none
  concurrencyPolicy : Option String := none
  jobTemplate : JobTemplate := {}
  deriving DecidableEq

/-- A scheduled job. -/
structure CronJob where
  metadata : Meta := {}
  spec : Option CronJobSpec := none
  deriving DecidableEq

/-- The version of the interface that jobs belong to. -/
def batchVersion : String := "batch/v1"

namespace JobSpec

def rules : List Decode.Rule :=
  [.nullable "template" PodTemplate.decode, .nullable "backoffLimit" Decode.int32,
    .nullable "ttlSecondsAfterFinished" Decode.int32, .nullable "parallelism" Decode.int32,
    .nullable "completions" Decode.int32, .nullable "suspend" Decode.bool]

/-- Read what a job runs. -/
def decode (j : Json) : Decoded JobSpec := do
  let f ← Decode.objectRecord "JobSpec" rules j
  return {
    template := (← f.find "template" PodTemplate.decode).getD {}
    backoffLimit := ← f.find "backoffLimit" Decode.int32
    ttlSecondsAfterFinished := ← f.find "ttlSecondsAfterFinished" Decode.int32
    parallelism := ← f.find "parallelism" Decode.int32
    completions := ← f.find "completions" Decode.int32
    suspend := ← f.find "suspend" Decode.bool }

/-- The JSON form. -/
def encode (s : JobSpec) : Json :=
  Json.objectOf [("template", some s.template.encode), ("backoffLimit", s.backoffLimit.map .ofInt),
    ("ttlSecondsAfterFinished", s.ttlSecondsAfterFinished.map .ofInt),
    ("parallelism", s.parallelism.map .ofInt), ("completions", s.completions.map .ofInt),
    ("suspend", s.suspend.map .bool)]

end JobSpec

namespace JobStatus

def rules : List Decode.Rule :=
  [.nullable "active" Decode.int32, .nullable "succeeded" Decode.int32,
    .nullable "failed" Decode.int32, .nullable "startTime" Instant.decode,
    .nullable "completionTime" Instant.decode, .nullable "ready" Decode.int32]

/-- Read the status of a job. -/
def decode (j : Json) : Decoded JobStatus := do
  let f ← Decode.objectRecord "JobStatus" rules j
  return {
    active := ← f.find "active" Decode.int32
    succeeded := ← f.find "succeeded" Decode.int32
    failed := ← f.find "failed" Decode.int32
    startTime := ← f.find "startTime" Instant.decode
    completionTime := ← f.find "completionTime" Instant.decode
    ready := ← f.find "ready" Decode.int32 }

/-- The JSON form. -/
def encode (s : JobStatus) : Json :=
  Json.objectOf [("active", s.active.map .ofInt), ("succeeded", s.succeeded.map .ofInt),
    ("failed", s.failed.map .ofInt), ("startTime", s.startTime.map encodeTime),
    ("completionTime", s.completionTime.map encodeTime), ("ready", s.ready.map .ofInt)]

end JobStatus

namespace Job

/-- The kind of the object. -/
def kind : String := "Job"

def rules : List Decode.Rule :=
  typeRules batchVersion kind ++ [.nullable "metadata" Meta.decode,
    .nullable "spec" JobSpec.decode, .nullable "status" JobStatus.decode]

/-- Read a job. -/
def decode (j : Json) : Decoded Job := do
  let f ← Decode.objectRecord kind rules j
  return {
    metadata := (← f.find "metadata" Meta.decode).getD {}
    spec := ← f.find "spec" JobSpec.decode
    status := ← f.find "status" JobStatus.decode }

/-- The JSON form. -/
def encode (job : Job) : Json :=
  Json.objectOf (typeFields batchVersion kind ++ [("metadata", some job.metadata.encode),
    ("spec", job.spec.map JobSpec.encode), ("status", job.status.map JobStatus.encode)])

end Job

namespace JobTemplate

def rules : List Decode.Rule :=
  [.nullable "metadata" Meta.decode, .nullable "spec" JobSpec.decode]

/-- Read a template of jobs. -/
def decode (j : Json) : Decoded JobTemplate := do
  let f ← Decode.objectRecord "JobTemplateSpec" rules j
  return { metadata := ← f.find "metadata" Meta.decode, spec := ← f.find "spec" JobSpec.decode }

/-- The JSON form. -/
def encode (t : JobTemplate) : Json :=
  Json.objectOf [("metadata", t.metadata.map Meta.encode), ("spec", t.spec.map JobSpec.encode)]

end JobTemplate

namespace CronJobSpec

def rules : List Decode.Rule :=
  [.nullable "schedule" Decode.text, .nullable "suspend" Decode.bool,
    .nullable "timeZone" Decode.text, .nullable "concurrencyPolicy" Decode.text,
    .nullable "jobTemplate" JobTemplate.decode]

/-- Read what a scheduled job runs. -/
def decode (j : Json) : Decoded CronJobSpec := do
  let f ← Decode.objectRecord "CronJobSpec" rules j
  return {
    schedule := (← f.find "schedule" Decode.text).getD ""
    suspend := ← f.find "suspend" Decode.bool
    timeZone := ← f.find "timeZone" Decode.text
    concurrencyPolicy := ← f.find "concurrencyPolicy" Decode.text
    jobTemplate := (← f.find "jobTemplate" JobTemplate.decode).getD {} }

/-- The JSON form. -/
def encode (s : CronJobSpec) : Json :=
  Json.objectOf [("schedule", some (.str s.schedule)), ("suspend", s.suspend.map .bool),
    ("timeZone", s.timeZone.map .str), ("concurrencyPolicy", s.concurrencyPolicy.map .str),
    ("jobTemplate", some s.jobTemplate.encode)]

end CronJobSpec

namespace CronJob

/-- The kind of the object. -/
def kind : String := "CronJob"

def rules : List Decode.Rule :=
  typeRules batchVersion kind ++
    [.nullable "metadata" Meta.decode, .nullable "spec" CronJobSpec.decode]

/-- Read a scheduled job. -/
def decode (j : Json) : Decoded CronJob := do
  let f ← Decode.objectRecord kind rules j
  return {
    metadata := (← f.find "metadata" Meta.decode).getD {}
    spec := ← f.find "spec" CronJobSpec.decode }

/-- The JSON form. -/
def encode (c : CronJob) : Json :=
  Json.objectOf (typeFields batchVersion kind ++ [("metadata", some c.metadata.encode),
    ("spec", c.spec.map CronJobSpec.encode)])

end CronJob

end TaskEngine.Cluster
