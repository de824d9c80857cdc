import TaskEngine.Cluster.Job
import TaskEngine.Schedule.Basic
import TaskEngine.Workload.ExtraVars
import TaskEngine.Workload.Label

/-!
# Scheduled tasks

The definition of a task that runs on a schedule. It lives in the cluster only: it is compiled into a
scheduled job and read back from there.
-/

namespace TaskEngine

/-- A task on a schedule. -/
structure CronJob where
  /-- The unique name. -/
  name : String
  /-- The user that the runs are attributed to. -/
  owner : String
  /-- The task that is run. -/
  task : String
  /-- When it is run. -/
  schedule : String
  /-- Whether the schedule is suspended. -/
  disabled : Bool
  /-- The input of every run. -/
  extraVars : Option (Dict Json)
  deriving DecidableEq

namespace CronJob

/-- Refuse a malformed definition: the name first, then the task, then the schedule. -/
def validate (c : CronJob) : Outcome Unit := do
  Name.demand c.name
  if Text.isBlank c.task then throw (.malformed "cron job task must not be empty")
  Schedule.validate c.schedule

/-- The definition that a scheduled job of the cluster was compiled from. -/
def ofCluster (c : Cluster.CronJob) : CronJob :=
  let spec := c.spec.getD {}
  let template := (spec.jobTemplate.spec.getD {}).template
  { name := c.metadata.name.getD ""
    owner := c.metadata.label Label.owner
    task := c.metadata.label Label.task
    schedule := spec.schedule
    disabled := spec.suspend.getD false
    extraVars := (ExtraVars.ofTemplate template).bind ExtraVars.decode }

def rules : List Decode.Rule :=
  [(Decode.Rule.required "name" Decode.text).orNamed "id", .defaulted "owner" Decode.text,
    .required "task" Decode.text, .required "schedule" Decode.text,
    (Decode.Rule.defaulted "disabled" Decode.bool).orNamed "disable",
    .nullable "extra_vars" Decode.object]

/-- Read a definition. -/
def decode (j : Json) : Decoded CronJob := do
  let f ← Decode.record "struct CronJob" rules j
  return {
    name := ← f.get "name" Decode.text
    owner := ← f.getD "owner" Decode.text ""
    task := ← f.get "task" Decode.text
    schedule := ← f.get "schedule" Decode.text
    disabled := ← f.getD "disabled" Decode.bool false
    extraVars := ← f.find "extra_vars" Decode.object }

/-- The JSON form; absent input is left out. -/
def encode (c : CronJob) : Json :=
  .obj ([("name", .str c.name), ("owner", .str c.owner), ("task", .str c.task),
    ("schedule", .str c.schedule), ("disabled", .bool c.disabled)] ++
    (c.extraVars.map fun vars => ("extra_vars", Json.ofDict vars)).toList)

end CronJob

end TaskEngine
