import TaskEngine.Cluster.Meta

/-!
# Pods

A pod runs containers: the init containers first, one after the other, then the main containers. A
template describes the pods of a workload. The status of a pod tells, per container, whether it is
waiting, running or has ended.
-/

namespace TaskEngine.Cluster

/-- A variable in the environment of a container. -/
structure EnvVar where
  name : String
  value : Option String := none
  deriving DecidableEq

/-- A secret whose keys become variables of a container. -/
structure SecretEnv where
  name : String
  isOptional : Option Bool := none
  deriving DecidableEq

/-- A source of variables of a container. -/
structure EnvSource where
  keyPrefix : Option String := none
  secret : Option SecretEnv := none
  deriving DecidableEq

/-- A volume as a container sees it. -/
structure VolumeMount where
  /-- The name of the volume. -/
  name : String
  /-- Where the container finds it. -/
  mountPath : String
  readOnly : Option Bool := none
  subPath : Option String := none
  deriving DecidableEq

/-- A container of a pod. -/
structure Container where
  name : String
  image : Option String := none
  imagePullPolicy : Option String := none
  command : Option (List String) := none
  args : Option (List String) := none
  workingDir : Option String := none
  env : Option (List EnvVar) := none
  envFrom : Option (List EnvSource) := none
  volumeMounts : Option (List VolumeMount) := none
  deriving DecidableEq

/-- The secret behind a volume. -/
structure SecretVolume where
  secretName : Option String := none
  isOptional : Option Bool := none
  deriving DecidableEq

/-- A volume without contents at first. -/
structure EmptyVolume where
  medium : Option String := none
  deriving DecidableEq

/-- A volume of a pod. -/
structure Volume where
  name : String
  secret : Option SecretVolume := none
  emptyDir : Option EmptyVolume := none
  deriving DecidableEq

/-- What a pod runs. -/
structure PodSpec where
  initContainers : Option (List Container) := none
  containers : List Container := []
  restartPolicy : Option String := none
  serviceAccountName : Option String := none
  nodeName : Option String := none
  volumes : Option (List Volume) := none
  deriving DecidableEq

/-- The description of the pods of a workload. -/
structure PodTemplate where
  metadata : Option Meta := none
  spec : Option PodSpec := none
  deriving DecidableEq

/-- Why a container waits. -/
structure Waiting where
  reason : Option String := none
  message : Option String := none
  deriving DecidableEq

/-- Since when a container runs. -/
structure Running where
  startedAt : Option Instant := none
  deriving DecidableEq

/-- How a container ended. -/
structure Terminated where
  exitCode : Int
  reason : Option String := none
  message : Option String := none
  signal : Option Int := none
  startedAt : Option Instant := none
  finishedAt : Option Instant := none
  deriving DecidableEq

/-- What a container does. -/
structure ContainerState where
  waiting : Option Waiting := none
  running : Option Running := none
  terminated : Option Terminated := none
  deriving DecidableEq

/-- The status of a container. -/
structure ContainerStatus where
  name : String
  image : String
  imageId : String := ""
  ready : Bool := false
  restartCount : Int := 0
  started : Option Bool := none
  state : Option ContainerState := none
  lastState : Option ContainerState := none
  deriving DecidableEq

/-- The status of a pod. -/
structure PodStatus where
  phase : Option String := none
  reason : Option String := none
  message : Option String := none
  startTime : Option Instant := none
  initContainerStatuses : Option (List ContainerStatus) := none
  containerStatuses : Option (List ContainerStatus) := none
  deriving DecidableEq

/-- A pod. -/
structure Pod where
  metadata : Meta := {}
  spec : Option PodSpec := none
  status : Option PodStatus := none
  deriving DecidableEq

/-! ## JSON forms -/

namespace EnvVar

def rules : List Decode.Rule := [.nullable "name" Decode.text, .nullable "value" Decode.text]

/-- Read a variable. -/
def decode (j : Json) : Decoded EnvVar := do
  let f ← Decode.objectRecord "EnvVar" rules j
  return {
    name := (← f.find "name" Decode.text).getD ""
    value := ← f.find "value" Decode.text }

/-- The JSON form. -/
def encode (v : EnvVar) : Json :=
  Json.objectOf [("name", some (.str v.name)), ("value", v.value.map .str)]

end EnvVar

namespace SecretEnv

def rules : List Decode.Rule := [.nullable "name" Decode.text, .nullable "optional" Decode.bool]

/-- Read a secret source. -/
def decode (j : Json) : Decoded SecretEnv := do
  let f ← Decode.objectRecord "SecretEnvSource" rules j
  return {
    name := (← f.find "name" Decode.text).getD ""
    isOptional := ← f.find "optional" Decode.bool }

/-- The JSON form. -/
def encode (s : SecretEnv) : Json :=
  Json.objectOf [("name", some (.str s.name)), ("optional", s.isOptional.map .bool)]

end SecretEnv

namespace EnvSource

def rules : List Decode.Rule :=
  [.nullable "prefix" Decode.text, .nullable "secretRef" SecretEnv.decode]

/-- Read a source of variables. -/
def decode (j : Json) : Decoded EnvSource := do
  let f ← Decode.objectRecord "EnvFromSource" rules j
  return {
    keyPrefix := ← f.find "prefix" Decode.text
    secret := ← f.find "secretRef" SecretEnv.decode }

/-- The JSON form. -/
def encode (s : EnvSource) : Json :=
  Json.objectOf [("prefix", s.keyPrefix.map .str), ("secretRef", s.secret.map SecretEnv.encode)]

end EnvSource

namespace VolumeMount

def rules : List Decode.Rule :=
  [.nullable "name" Decode.text, .nullable "mountPath" Decode.text,
    .nullable "readOnly" Decode.bool, .nullable "subPath" Decode.text]

/-- Read a volume of a container. -/
def decode (j : Json) : Decoded VolumeMount := do
  let f ← Decode.objectRecord "VolumeMount" rules j
  return {
    name := (← f.find "name" Decode.text).getD ""
    mountPath := (← f.find "mountPath" Decode.text).getD ""
    readOnly := ← f.find "readOnly" Decode.bool
    subPath := ← f.find "subPath" Decode.text }

/-- The JSON form. -/
def encode (m : VolumeMount) : Json :=
  Json.objectOf [("name", some (.str m.name)), ("mountPath", some (.str m.mountPath)),
    ("readOnly", m.readOnly.map .bool), ("subPath", m.subPath.map .str)]

end VolumeMount

/-- The array of a list in JSON form. -/
def encodeList {α : Type} (encode : α → Json) (items : List α) : Json := .arr (items.map encode)

namespace Container

def rules : List Decode.Rule :=
  [.nullable "name" Decode.text, .nullable "image" Decode.text,
    .nullable "imagePullPolicy" Decode.text, .nullable "command" (Decode.list Decode.text),
    .nullable "args" (Decode.list Decode.text), .nullable "workingDir" Decode.text,
    .nullable "env" (Decode.list EnvVar.decode),
    .nullable "envFrom" (Decode.list EnvSource.decode),
    .nullable "volumeMounts" (Decode.list VolumeMount.decode)]

/-- Read a container. -/
def decode (j : Json) : Decoded Container := do
  let f ← Decode.objectRecord "Container" rules j
  return {
    name := (← f.find "name" Decode.text).getD ""
    image := ← f.find "image" Decode.text
    imagePullPolicy := ← f.find "imagePullPolicy" Decode.text
    command := ← f.find "command" (Decode.list Decode.text)
    args := ← f.find "args" (Decode.list Decode.text)
    workingDir := ← f.find "workingDir" Decode.text
    env := ← f.find "env" (Decode.list EnvVar.decode)
    envFrom := ← f.find "envFrom" (Decode.list EnvSource.decode)
    volumeMounts := ← f.find "volumeMounts" (Decode.list VolumeMount.decode) }

/-- The JSON form. -/
def encode (c : Container) : Json :=
  Json.objectOf [("name", some (.str c.name)), ("image", c.image.map .str),
    ("imagePullPolicy", c.imagePullPolicy.map .str), ("command", c.command.map Json.ofTextList),
    ("args", c.args.map Json.ofTextList), ("workingDir", c.workingDir.map .str),
    ("env", c.env.map (encodeList EnvVar.encode)),
    ("envFrom", c.envFrom.map (encodeList EnvSource.encode)),
    ("volumeMounts", c.volumeMounts.map (encodeList VolumeMount.encode))]

end Container

namespace SecretVolume

def rules : List Decode.Rule :=
  [.nullable "secretName" Decode.text, .nullable "optional" Decode.bool]

/-- Read the secret behind a volume. -/
def decode (j : Json) : Decoded SecretVolume := do
  let f ← Decode.objectRecord "SecretVolumeSource" rules j
  return {
    secretName := ← f.find "secretName" Decode.text
    isOptional := ← f.find "optional" Decode.bool }

/-- The JSON form. -/
def encode (s : SecretVolume) : Json :=
  Json.objectOf [("secretName", s.secretName.map .str), ("optional", s.isOptional.map .bool)]

end SecretVolume

namespace EmptyVolume

def rules : List Decode.Rule := [.nullable "medium" Decode.text]

/-- Read an empty volume. -/
def decode (j : Json) : Decoded EmptyVolume := do
  let f ← Decode.objectRecord "EmptyDirVolumeSource" rules j
  return { medium := ← f.find "medium" Decode.text }

/-- The JSON form. -/
def encode (v : EmptyVolume) : Json := Json.objectOf [("medium", v.medium.map .str)]

end EmptyVolume

namespace Volume

def rules : List Decode.Rule :=
  [.nullable "name" Decode.text, .nullable "secret" SecretVolume.decode,
    .nullable "emptyDir" EmptyVolume.decode]

/-- Read a volume. -/
def decode (j : Json) : Decoded Volume := do
  let f ← Decode.objectRecord "Volume" rules j
  return {
    name := (← f.find "name" Decode.text).getD ""
    secret := ← f.find "secret" SecretVolume.decode
    emptyDir := ← f.find "emptyDir" EmptyVolume.decode }

/-- The JSON form. -/
def encode (v : Volume) : Json :=
  Json.objectOf [("name", some (.str v.name)), ("secret", v.secret.map SecretVolume.encode),
    ("emptyDir", v.emptyDir.map EmptyVolume.encode)]

end Volume

namespace PodSpec

def rules : List Decode.Rule :=
  [.nullable "initContainers" (Decode.list Container.decode),
    .nullable "containers" (Decode.list Container.decode),
    .nullable "restartPolicy" Decode.text, .nullable "serviceAccountName" Decode.text,
    .nullable "nodeName" Decode.text, .nullable "volumes" (Decode.list Volume.decode)]

/-- Read what a pod runs. -/
def decode (j : Json) : Decoded PodSpec := do
  let f ← Decode.objectRecord "PodSpec" rules j
  return {
    initContainers := ← f.find "initContainers" (Decode.list Container.decode)
    containers := (← f.find "containers" (Decode.list Container.decode)).getD []
    restartPolicy := ← f.find "restartPolicy" Decode.text
    serviceAccountName := ← f.find "serviceAccountName" Decode.text
    nodeName := ← f.find "nodeName" Decode.text
    volumes := ← f.find "volumes" (Decode.list Volume.decode) }

/-- The JSON form. -/
def encode (s : PodSpec) : Json :=
  Json.objectOf [("initContainers", s.initContainers.map (encodeList Container.encode)),
    ("containers", some (encodeList Container.encode s.containers)),
    ("restartPolicy", s.restartPolicy.map .str),
    ("serviceAccountName", s.serviceAccountName.map .str), ("nodeName", s.nodeName.map .str),
    ("volumes", s.volumes.map (encodeList Volume.encode))]

end PodSpec

namespace PodTemplate

def rules : List Decode.Rule :=
  [.nullable "metadata" Meta.decode, .nullable "spec" PodSpec.decode]

/-- Read a template. -/
def decode (j : Json) : Decoded PodTemplate := do
  let f ← Decode.objectRecord "PodTemplateSpec" rules j
  return { metadata := ← f.find "metadata" Meta.decode, spec := ← f.find "spec" PodSpec.decode }

/-- The JSON form. -/
def encode (t : PodTemplate) : Json :=
  Json.objectOf [("metadata", t.metadata.map Meta.encode), ("spec", t.spec.map PodSpec.encode)]

end PodTemplate

namespace Waiting

def rules : List Decode.Rule := [.nullable "reason" Decode.text, .nullable "message" Decode.text]

/-- Read why a container waits. -/
def decode (j : Json) : Decoded Waiting := do
  let f ← Decode.objectRecord "ContainerStateWaiting" rules j
  return { reason := ← f.find "reason" Decode.text, message := ← f.find "message" Decode.text }

/-- The JSON form. -/
def encode (w : Waiting) : Json :=
  Json.objectOf [("reason", w.reason.map .str), ("message", w.message.map .str)]

end Waiting

namespace Running

def rules : List Decode.Rule := [.nullable "startedAt" Instant.decode]

/-- Read since when a container runs. -/
def decode (j : Json) : Decoded Running := do
  let f ← Decode.objectRecord "ContainerStateRunning" rules j
  return { startedAt := ← f.find "startedAt" Instant.decode }

/-- The JSON form. -/
def encode (r : Running) : Json := Json.objectOf [("startedAt", r.startedAt.map encodeTime)]

end Running

namespace Terminated

def rules : List Decode.Rule :=
  [.nullable "exitCode" Decode.int32, .nullable "reason" Decode.text,
    .nullable "message" Decode.text, .nullable "signal" Decode.int32,
    .nullable "startedAt" Instant.decode, .nullable "finishedAt" Instant.decode]

/-- Read how a container ended. -/
def decode (j : Json) : Decoded Terminated := do
  let f ← Decode.objectRecord "ContainerStateTerminated" rules j
  return {
    exitCode := (← f.find "exitCode" Decode.int32).getD 0
    reason := ← f.find "reason" Decode.text
    message := ← f.find "message" Decode.text
    signal := ← f.find "signal" Decode.int32
    startedAt := ← f.find "startedAt" Instant.decode
    finishedAt := ← f.find "finishedAt" Instant.decode }

/-- The JSON form. -/
def encode (t : Terminated) : Json :=
  Json.objectOf [("exitCode", some (.ofInt t.exitCode)), ("reason", t.reason.map .str),
    ("message", t.message.map .str), ("signal", t.signal.map .ofInt),
    ("startedAt", t.startedAt.map encodeTime), ("finishedAt", t.finishedAt.map encodeTime)]

end Terminated

namespace ContainerState

def rules : List Decode.Rule :=
  [.nullable "waiting" Waiting.decode, .nullable "running" Running.decode,
    .nullable "terminated" Terminated.decode]

/-- Read what a container does. -/
def decode (j : Json) : Decoded ContainerState := do
  let f ← Decode.objectRecord "ContainerState" rules j
  return {
    waiting := ← f.find "waiting" Waiting.decode
    running := ← f.find "running" Running.decode
    terminated := ← f.find "terminated" Terminated.decode }

/-- The JSON form. -/
def encode (s : ContainerState) : Json :=
  Json.objectOf [("waiting", s.waiting.map Waiting.encode),
    ("running", s.running.map Running.encode), ("terminated", s.terminated.map Terminated.encode)]

end ContainerState

namespace ContainerStatus

def rules : List Decode.Rule :=
  [.nullable "name" Decode.text, .nullable "image" Decode.text, .nullable "imageID" Decode.text,
    .nullable "ready" Decode.bool, .nullable "restartCount" Decode.int32,
    .nullable "started" Decode.bool, .nullable "state" ContainerState.decode,
    .nullable "lastState" ContainerState.decode]

/-- Read the status of a container. -/
def decode (j : Json) : Decoded ContainerStatus := do
  let f ← Decode.objectRecord "ContainerStatus" rules j
  return {
    name := (← f.find "name" Decode.text).getD ""
    image := (← f.find "image" Decode.text).getD ""
    imageId := (← f.find "imageID" Decode.text).getD ""
    ready := (← f.find "ready" Decode.bool).getD false
    restartCount := (← f.find "restartCount" Decode.int32).getD 0
    started := ← f.find "started" Decode.bool
    state := ← f.find "state" ContainerState.decode
    lastState := ← f.find "lastState" ContainerState.decode }

/-- The JSON form. -/
def encode (s : ContainerStatus) : Json :=
  Json.objectOf [("name", some (.str s.name)), ("image", some (.str s.image)),
    ("imageID", some (.str s.imageId)), ("ready", some (.bool s.ready)),
    ("restartCount", some (.ofInt s.restartCount)), ("started", s.started.map .bool),
    ("state", s.state.map ContainerState.encode),
    ("lastState", s.lastState.map ContainerState.encode)]

end ContainerStatus

namespace PodStatus

def rules : List Decode.Rule :=
  [.nullable "phase" Decode.text, .nullable "reason" Decode.text, .nullable "message" Decode.text,
    .nullable "startTime" Instant.decode,
    .nullable "initContainerStatuses" (Decode.list ContainerStatus.decode),
    .nullable "containerStatuses" (Decode.list ContainerStatus.decode)]

/-- Read the status of a pod. -/
def decode (j : Json) : Decoded PodStatus := do
  let f ← Decode.objectRecord "PodStatus" rules j
  return {
    phase := ← f.find "phase" Decode.text
    reason := ← f.find "reason" Decode.text
    message := ← f.find "message" Decode.text
    startTime := ← f.find "startTime" Instant.decode
    initContainerStatuses := ←
      f.find "initContainerStatuses" (Decode.list ContainerStatus.decode)
    containerStatuses := ← f.find "containerStatuses" (Decode.list ContainerStatus.decode) }

/-- The JSON form. -/
def encode (s : PodStatus) : Json :=
  Json.objectOf [("phase", s.phase.map .str), ("reason", s.reason.map .str),
    ("message", s.message.map .str), ("startTime", s.startTime.map encodeTime),
    ("initContainerStatuses", s.initContainerStatuses.map (encodeList ContainerStatus.encode)),
    ("containerStatuses", s.containerStatuses.map (encodeList ContainerStatus.encode))]

end PodStatus

namespace Pod

/-- The version of the interface that pods belong to. -/
def version : String := "v1"

/-- The kind of the object. -/
def kind : String := "Pod"

def rules : List Decode.Rule :=
  typeRules version kind ++ [.nullable "metadata" Meta.decode, .nullable "spec" PodSpec.decode,
    .nullable "status" PodStatus.decode]

/-- Read a pod. -/
def decode (j : Json) : Decoded Pod := do
  let f ← Decode.objectRecord kind rules j
  return {
    metadata := (← f.find "metadata" Meta.decode).getD {}
    spec := ← f.find "spec" PodSpec.decode
    status := ← f.find "status" PodStatus.decode }

/-- The JSON form. -/
def encode (p : Pod) : Json :=
  Json.objectOf (typeFields version kind ++ [("metadata", some p.metadata.encode),
    ("spec", p.spec.map PodSpec.encode), ("status", p.status.map PodStatus.encode)])

end Pod

end TaskEngine.Cluster
