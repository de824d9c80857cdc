import TaskEngine.Cluster.Job
import TaskEngine.Workload.Label

/-!
# Launched jobs

What the engine tells about a job that it launched. The state of a job is not stored but derived
from the counters and times that the orchestrator reports: it was submitted, runs, and in the end
has succeeded or failed.
-/

namespace TaskEngine

/-- The state of a job. -/
inductive JobState where
  | submitted
  | running
  | succeeded
  | failed
  deriving DecidableEq, Repr

namespace JobState

/-- The name of a state. -/
def name : JobState → String
  | .submitted => "submitted"
  | .running => "running"
  | .succeeded => "succeeded"
  | .failed => "failed"

/-- Every state, in order of progress. -/
def all : List JobState := [.submitted, .running, .succeeded, .failed]

/-- The state that a status shows. A succeeded pod outweighs a failed one. -/
def ofStatus (status : Option Cluster.JobStatus) : JobState :=
  match status with
  | none => .submitted
  | some s =>
    if 0 < s.succeeded.getD 0 then .succeeded
    else if 0 < s.failed.getD 0 then .failed
    else if s.startTime.isSome || 0 < s.active.getD 0 then .running
    else .submitted

/-- Whether a job in this state is over. -/
def isTerminal : JobState → Bool
  | .succeeded | .failed => true
  | .submitted | .running => false

/-- Read a state. -/
def decode : Json → Decoded JobState := Decode.member all name

/-- The JSON form. -/
def encode (s : JobState) : Json := .str s.name

end JobState

/-- The status of a job. -/
structure JobSummary where
  /-- The name that the orchestrator gave it. -/
  id : String
  /-- The user that launched it. -/
  owner : String
  /-- When its first pod started. -/
  startTime : Option Instant
  /-- When it was completed. -/
  completionTime : Option Instant
  /-- The number of failed pods. -/
  failed : Int
  /-- The number of succeeded pods. -/
  completed : Int
  /-- The derived state. -/
  state : JobState
  deriving DecidableEq, Repr

/-- The status, the logs and the result of a job. -/
structure JobResult where
  /-- The status. -/
  summary : JobSummary
  /-- The logs of all its containers. -/
  stdout : String
  /-- The result that it printed. -/
  data : Option Json
  /-- Why its containers could not run. -/
  error : Option String
  deriving DecidableEq

/-- The answer to a launch. -/
structure JobLaunch where
  /-- The name that the orchestrator gave to the job. -/
  id : String
  /-- The result, if the launch waited for it. -/
  result : Option JobResult
  deriving DecidableEq

namespace JobSummary

/-- The summary of a job of the cluster. Counters below zero count as zero. -/
def ofCluster (job : Cluster.Job) : JobSummary :=
  let status := job.status.getD {}
  { id := job.metadata.name.getD ""
    owner := job.metadata.label Label.owner
    startTime := status.startTime
    completionTime := status.completionTime
    failed := max (status.failed.getD 0) 0
    completed := max (status.succeeded.getD 0) 0
    state := .ofStatus job.status }

/-- Whether a pod has succeeded or failed. -/
def isFinished (s : JobSummary) : Bool := 0 < s.completed || 0 < s.failed

def rules : List Decode.Rule :=
  [.required "id" Decode.text, .required "owner" Decode.text,
    .optionalInObject "startTime" Instant.decode,
    .optionalInObject "completionTime" Instant.decode, .required "failed" Decode.int32,
    .required "completed" Decode.int32, .required "state" JobState.decode]

/-- The summary in the fields of a record. -/
def ofFields (f : Decode.Fields) : Decoded JobSummary := do
  return {
    id := ← f.get "id" Decode.text
    owner := ← f.get "owner" Decode.text
    startTime := ← f.find "startTime" Instant.decode
    completionTime := ← f.find "completionTime" Instant.decode
    failed := ← f.get "failed" Decode.int32
    completed := ← f.get "completed" Decode.int32
    state := ← f.get "state" JobState.decode }

/-- Read a summary. -/
def decode (j : Json) : Decoded JobSummary := do
  ofFields (← Decode.record "struct JobSummary" rules j)

/-- The fields of the JSON form; absent times are left out. -/
def fields (s : JobSummary) : List (String × Json) :=
  [("id", .str s.id), ("owner", .str s.owner)] ++
    (s.startTime.map fun t => ("startTime", t.encode)).toList ++
    (s.completionTime.map fun t => ("completionTime", t.encode)).toList ++
    [("failed", .ofInt s.failed), ("completed", .ofInt s.completed), ("state", s.state.encode)]

/-- The JSON form. -/
def encode (s : JobSummary) : Json := .obj s.fields

end JobSummary

namespace JobResult

def rules : List Decode.Rule :=
  [.required "stdout" Decode.text, .optionalInObject "json_data" Decode.any,
    .nullable "error" Decode.text]

/-- Read a result: an object that holds the fields of the summary beside its own. -/
def decode (j : Json) : Decoded JobResult := do
  let own ← Decode.objectRecord "struct JobResult" rules j
  let stdout ← own.get "stdout" Decode.text
  let data ← own.find "json_data" Decode.any
  let error ← own.find "error" Decode.text
  let summary ← JobSummary.ofFields (← Decode.objectRecord "struct JobSummary" JobSummary.rules j)
  return { summary, stdout, data, error }

/-- The JSON form. No data shows as null; an absent error is left out. -/
def encode (r : JobResult) : Json :=
  .obj (r.summary.fields ++ [("stdout", .str r.stdout), ("json_data", r.data.getD .null)] ++
    (r.error.map fun e => ("error", Json.str e)).toList)

end JobResult

namespace JobLaunch

def rules : List Decode.Rule :=
  [.required "id" Decode.text, .nullable "result" JobResult.decode]

/-- Read a launch. -/
def decode (j : Json) : Decoded JobLaunch := do
  let f ← Decode.record "struct JobLaunch" rules j
  return { id := ← f.get "id" Decode.text, result := ← f.find "result" JobResult.decode }

/-- The JSON form; an absent result is left out. -/
def encode (l : JobLaunch) : Json :=
  .obj ([("id", .str l.id)] ++ (l.result.map fun r => ("result", r.encode)).toList)

end JobLaunch

end TaskEngine
