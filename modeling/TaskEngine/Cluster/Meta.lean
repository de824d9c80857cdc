import TaskEngine.Error
import TaskEngine.Json.Decode
import TaskEngine.Time

/-!
# Objects of the cluster

Every object of the orchestrator has metadata: a name or a name to generate, labels and annotations,
and what the orchestrator stamps on it. The typed objects hold the parts that the engine writes,
reads or passes on; other parts are passed over on reading. In the JSON form an absent part is left
out, and on reading null stands for absence.
-/

namespace TaskEngine.Cluster

/-- Text labels under names. -/
abbrev Labels := Dict String

/-- The metadata of an object. -/
structure Meta where
  /-- The name. -/
  name : Option String := none
  /-- The beginning of a name that the orchestrator completes. -/
  generateName : Option String := none
  /-- The namespace that the object lives in. -/
  namespaceName : Option String := none
  /-- The labels that selectors look at. -/
  labels : Option Labels := none
  /-- Further texts that no selector looks at. -/
  annotations : Option Labels := none
  /-- A unique identifier. -/
  uid : Option String := none
  /-- The version of the stored object. -/
  resourceVersion : Option String := none
  /-- The version of the desired state. -/
  generation : Option Int := none
  /-- When the object was made. -/
  creationTimestamp : Option Instant := none
  deriving DecidableEq

/-- A moment in an object of the cluster, which is written to the second. -/
def encodeTime (t : Instant) : Json := .str t.renderSeconds

/-- The rules for the version and the kind of an object. -/
def typeRules (version kind : String) : List Decode.Rule :=
  [.defaulted "apiVersion" (Decode.constant version), .defaulted "kind" (Decode.constant kind)]

/-- The fields for the version and the kind of an object. -/
def typeFields (version kind : String) : List (String × Option Json) :=
  [("apiVersion", some (.str version)), ("kind", some (.str kind))]

namespace Meta

def rules : List Decode.Rule :=
  [.nullable "name" Decode.text, .nullable "generateName" Decode.text,
    .nullable "namespace" Decode.text, .nullable "labels" (Decode.dict Decode.text),
    .nullable "annotations" (Decode.dict Decode.text), .nullable "uid" Decode.text,
    .nullable "resourceVersion" Decode.text, .nullable "generation" Decode.int64,
    .nullable "creationTimestamp" Instant.decode]

/-- Read metadata. -/
def decode (j : Json) : Decoded Meta := do
  let f ← Decode.objectRecord "ObjectMeta" rules j
  return {
    name := ← f.find "name" Decode.text
    generateName := ← f.find "generateName" Decode.text
    namespaceName := ← f.find "namespace" Decode.text
    labels := ← f.find "labels" (Decode.dict Decode.text)
    annotations := ← f.find "annotations" (Decode.dict Decode.text)
    uid := ← f.find "uid" Decode.text
    resourceVersion := ← f.find "resourceVersion" Decode.text
    generation := ← f.find "generation" Decode.int64
    creationTimestamp := ← f.find "creationTimestamp" Instant.decode }

/-- The JSON form. -/
def encode (m : Meta) : Json :=
  Json.objectOf [("name", m.name.map .str), ("generateName", m.generateName.map .str),
    ("namespace", m.namespaceName.map .str), ("labels", m.labels.map Json.ofTexts),
    ("annotations", m.annotations.map Json.ofTexts), ("uid", m.uid.map .str),
    ("resourceVersion", m.resourceVersion.map .str), ("generation", m.generation.map .ofInt),
    ("creationTimestamp", m.creationTimestamp.map encodeTime)]

/-- The text of a label, empty when there is none. -/
def label (m : Meta) (key : String) : String := ((m.labels.getD ∅).get? key).getD ""

end Meta

/-- The text of a label of metadata that may be absent. -/
def labelOf (m : Option Meta) (key : String) : String := (m.getD {}).label key

end TaskEngine.Cluster
