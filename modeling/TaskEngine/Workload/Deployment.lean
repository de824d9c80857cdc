import TaskEngine.Cluster.Deployment
import TaskEngine.Workload.ExtraVars
import TaskEngine.Workload.Label

/-!
# Deployed tasks

The definition of a task that is kept running. It lives in the cluster only: it is compiled into a
deployment and read back from there.
-/

namespace TaskEngine

/-- A task that is kept running. -/
structure Deployment where
  /-- The unique name. -/
  name : String
  /-- The user that it is attributed to. -/
  owner : String
  /-- The task that is run. -/
  task : String
  /-- How many pods are kept running. -/
  replicas : Int
  /-- The input of every pod. -/
  extraVars : Option (Dict Json)
  deriving DecidableEq

namespace Deployment

/-- Refuse a malformed definition: the name first, then the task, then the number of pods. -/
def validate (d : Deployment) : Outcome Unit := do
  Name.demand d.name
  if Text.isBlank d.task then throw (.malformed "deployment task must not be empty")
  if d.replicas < 0 then throw (.malformed "replicas must not be negative")

/-- The number of pods of a deployment of the cluster that names none. -/
def defaultReplicas : Int := 1

/-- The definition that a deployment of the cluster was compiled from. -/
def ofCluster (d : Cluster.Deployment) : Deployment :=
  let spec := d.spec.getD {}
  { name := d.metadata.name.getD ""
    owner := Cluster.labelOf spec.template.metadata Label.owner
    task := Cluster.labelOf spec.template.metadata Label.task
    replicas := spec.replicas.getD defaultReplicas
    extraVars := (ExtraVars.ofTemplate spec.template).bind ExtraVars.decode }

def rules : List Decode.Rule :=
  [.required "name" Decode.text, .defaulted "owner" Decode.text, .required "task" Decode.text,
    .required "replicas" Decode.int32, .nullable "extra_vars" Decode.object]

/-- Read a definition. -/
def decode (j : Json) : Decoded Deployment := do
  let f ← Decode.record "struct Deployment" rules j
  return {
    name := ← f.get "name" Decode.text
    owner := ← f.getD "owner" Decode.text ""
    task := ← f.get "task" Decode.text
    replicas := ← f.get "replicas" Decode.int32
    extraVars := ← f.find "extra_vars" Decode.object }

/-- The JSON form; absent input is left out. -/
def encode (d : Deployment) : Json :=
  .obj ([("name", .str d.name), ("owner", .str d.owner), ("task", .str d.task),
    ("replicas", .ofInt d.replicas)] ++
    (d.extraVars.map fun vars => ("extra_vars", Json.ofDict vars)).toList)

end Deployment

end TaskEngine
