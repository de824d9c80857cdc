import TaskEngine.Cluster.Pod

/-!
# Deployments of the cluster

A deployment keeps a number of pods running. It finds its pods by a selector on their labels, which
cannot change once the deployment exists.
-/

namespace TaskEngine.Cluster

/-- The labels that the pods of a deployment bear. -/
structure LabelSelector where
  matchLabels : Option Labels := none
  deriving DecidableEq

/-- What a deployment runs. -/
structure DeploymentSpec where
  replicas : Option Int := none
  selector : LabelSelector := {}
  template : PodTemplate := {}
  paused : Option Bool := none
  deriving DecidableEq

/-- A deployment. -/
structure Deployment where
  metadata : Meta := {}
  spec : Option DeploymentSpec := none
  deriving DecidableEq

namespace LabelSelector

def rules : List Decode.Rule := [.nullable "matchLabels" (Decode.dict Decode.text)]

/-- Read a selector. -/
def decode (j : Json) : Decoded LabelSelector := do
  let f ← Decode.objectRecord "LabelSelector" rules j
  return { matchLabels := ← f.find "matchLabels" (Decode.dict Decode.text) }

/-- The JSON form. -/
def encode (s : LabelSelector) : Json :=
  Json.objectOf [("matchLabels", s.matchLabels.map Json.ofTexts)]

end LabelSelector

namespace DeploymentSpec

def rules : List Decode.Rule :=
  [.nullable "replicas" Decode.int32, .nullable "selector" LabelSelector.decode,
    .nullable "template" PodTemplate.decode, .nullable "paused" Decode.bool]

/-- Read what a deployment runs. -/
def decode (j : Json) : Decoded DeploymentSpec := do
  let f ← Decode.objectRecord "DeploymentSpec" rules j
  return {
    replicas := ← f.find "replicas" Decode.int32
    selector := (← f.find "selector" LabelSelector.decode).getD {}
    template := (← f.find "template" PodTemplate.decode).getD {}
    paused := ← f.find "paused" Decode.bool }

/-- The JSON form. -/
def encode (s : DeploymentSpec) : Json :=
  Json.objectOf [("replicas", s.replicas.map .ofInt), ("selector", some s.selector.encode),
    ("template", some s.template.encode), ("paused", s.paused.map .bool)]

end DeploymentSpec

namespace Deployment

/-- The version of the interface that deployments belong to. -/
def version : String := "apps/v1"

/-- The kind of the object. -/
def kind : String := "Deployment"

def rules : List Decode.Rule :=
  typeRules version kind ++
    [.nullable "metadata" Meta.decode, .nullable "spec" DeploymentSpec.decode]

/-- Read a deployment. -/
def decode (j : Json) : Decoded Deployment := do
  let f ← Decode.objectRecord kind rules j
  return {
    metadata := (← f.find "metadata" Meta.decode).getD {}
    spec := ← f.find "spec" DeploymentSpec.decode }

/-- The JSON form. -/
def encode (d : Deployment) : Json :=
  Json.objectOf (typeFields version kind ++ [("metadata", some d.metadata.encode),
    ("spec", d.spec.map DeploymentSpec.encode)])

end Deployment

end TaskEngine.Cluster
