import TaskEngine.Catalog.Record
import TaskEngine.Cluster.Deployment
import TaskEngine.Cluster.Job
import TaskEngine.Cluster.Storage
import TaskEngine.Dialogue
import TaskEngine.Json.Printer
import TaskEngine.Json.Reader

/-!
# Talking to the cluster

The cluster is reached by requests on paths: a collection of objects of one kind, or an object in it.
A reply from 400 on is a refusal, which may explain itself in its body; any other reply has to hold
what was asked for.
-/

namespace TaskEngine.Cluster

/-- What is done to a path. -/
inductive Method where
  | get
  | post
  | put
  | delete
  deriving DecidableEq, Repr

/-- The name of a method. -/
def Method.name : Method → String
  | .get => "GET"
  | .post => "POST"
  | .put => "PUT"
  | .delete => "DELETE"

/-- A request. -/
structure HttpRequest where
  method : Method
  path : String
  query : Dict String := ∅
  body : Option Json := none
  deriving DecidableEq

/-- The body of a reply: a JSON value, or text of any kind. -/
inductive Body where
  | json (value : Json)
  | text (raw : String)
  deriving DecidableEq

namespace Body

/-- The JSON value that a body holds, unless it is nested too deeply. -/
def json? : Body → Option Json
  | .json value => if value.depth ≤ Json.maxDepth then some value else none
  | .text raw => Json.read? raw

/-- The text of a body. -/
def toText : Body → String
  | .json value => value.compact
  | .text raw => raw

end Body

/-- A reply. -/
structure HttpReply where
  status : Nat
  body : Body
  deriving DecidableEq

/-- Why a request brings no answer. -/
inductive ClientError where
  /-- The cluster refuses it. -/
  | refused (code : Nat) (reason : String)
  /-- It cannot be made, or its answer does not decode. -/
  | unusable
  deriving DecidableEq, Repr

namespace ClientError

/-- The code for an object that is not there. -/
def absentCode : Nat := 404

/-- The code for an object that stands in the way. -/
def conflictCode : Nat := 409

/-- The error of the engine about an object of a type and name. -/
def toEngine (resource name : String) : ClientError → EngineError
  | .refused code _ =>
    if code = absentCode then .notFound resource name
    else if code = conflictCode then .conflict resource name
    else .infrastructure (resource ++ " " ++ name) true
  | .unusable => .infrastructure (resource ++ " " ++ name) true

/-- Whether the cluster says that the object is not there. -/
def isAbsent : ClientError → Bool
  | .refused code _ => code = absentCode
  | .unusable => false

end ClientError

/-- A dialogue with the cluster. -/
abbrev Conversation := Dialogue HttpRequest fun _ => HttpReply

/-- The status from which a reply is a refusal. -/
def refusalStatus : Nat := 400

/-- The rules for the body of a refusal. -/
def refusalRules : List Decode.Rule :=
  [.required "status" Decode.text, .defaulted "message" Decode.text,
    .defaulted "reason" Decode.text, .required "code" (Decode.intWithin 0 0xFFFF "u16")]

/-- The code and the reason that the body of a refusal gives. -/
def readRefusal (j : Json) : Decoded ClientError := do
  let f ← Decode.record "struct ErrorResponse" refusalRules j
  let code ← f.get "code" Decode.int64
  return .refused code.toNat (← f.getD "reason" Decode.text "")

/-- The reason of a refusal that does not explain itself. -/
def unexplained : String := "Failed to parse error data"

/-- The refusal of a reply: the code in its body counts, or else its status. -/
def refusal (reply : HttpReply) : ClientError :=
  match (reply.body.json?.map readRefusal) with
  | some (.ok e) => e
  | _ => .refused reply.status unexplained

/-- Send a request and read the body of the reply. -/
def send {α : Type} (request : HttpRequest) (read : Body → Option α) :
    Conversation (Except ClientError α) := do
  let reply ← Dialogue.request request
  if refusalStatus ≤ reply.status then return .error (refusal reply)
  match read reply.body with
  | some a => return .ok a
  | none => return .error .unusable

/-- How a body is read as a value that decodes from JSON. -/
def reading {α : Type} (decode : Json → Decoded α) (body : Body) : Option α :=
  body.json?.bind fun j => (decode j).toOption

/-- A kind of objects of the cluster. -/
structure ObjectKind (α : Type) where
  /-- The path of the interface. -/
  interface : String
  /-- The name of the collections. -/
  collection : String
  /-- Read an object. -/
  decode : Json → Decoded α
  /-- The JSON form of an object. -/
  encode : α → Json

/-- Jobs. -/
def ObjectKind.jobs : ObjectKind Job := ⟨"/apis/batch/v1", "jobs", Job.decode, Job.encode⟩

/-- Scheduled jobs. -/
def ObjectKind.cronJobs : ObjectKind CronJob :=
  ⟨"/apis/batch/v1", "cronjobs", CronJob.decode, CronJob.encode⟩

/-- Deployments. -/
def ObjectKind.deployments : ObjectKind Deployment :=
  ⟨"/apis/apps/v1", "deployments", Deployment.decode, Deployment.encode⟩

/-- Pods. -/
def ObjectKind.pods : ObjectKind Pod := ⟨"/api/v1", "pods", Pod.decode, Pod.encode⟩

/-- Maps of texts. -/
def ObjectKind.configMaps : ObjectKind ConfigMap :=
  ⟨"/api/v1", "configmaps", ConfigMap.decode, ConfigMap.encode⟩

/-- Maps of bytes. -/
def ObjectKind.secrets : ObjectKind Secret :=
  ⟨"/api/v1", "secrets", Secret.decode, Secret.encode⟩

/-- The objects of a kind in a namespace. -/
structure Collection (α : Type) where
  kind : ObjectKind α
  namespaceName : String

namespace Collection

variable {α : Type}

/-- The path of a collection. -/
def path (c : Collection α) : String :=
  c.kind.interface ++ "/namespaces/" ++ c.namespaceName ++ "/" ++ c.kind.collection

/-- The path of an object. -/
def objectPath (c : Collection α) (name : String) : String := c.path ++ "/" ++ name

/-- Send a request about an object, which has to have a name. -/
def sendNamed {β : Type} (name : String) (request : HttpRequest) (read : Body → Option β) :
    Conversation (Except ClientError β) :=
  if name.isEmpty then Dialogue.succeed (.error .unusable) else send request read

/-- Read an object. -/
def get (c : Collection α) (name : String) : Conversation (Except ClientError α) :=
  sendNamed name { method := .get, path := c.objectPath name } (reading c.kind.decode)

/-- The reason that tells that an object is absent. -/
def absentReason : String := "NotFound"

/-- Read an object that may be absent. -/
def find (c : Collection α) (name : String) : Conversation (Except ClientError (Option α)) := do
  match ← c.get name with
  | .ok object => return .ok (some object)
  | .error (.refused code reason) =>
    if reason = absentReason then return .ok none else return .error (.refused code reason)
  | .error e => return .error e

/-- The rules for the listing of a collection. -/
def listRules (decode : Json → Decoded α) : List Decode.Rule :=
  [(Decode.Rule.required "items" (Decode.optional (Decode.list decode)))]

/-- Read the listing of a collection. -/
def decodeList (decode : Json → Decoded α) (j : Json) : Decoded (List α) := do
  let f ← Decode.objectRecord "struct ObjectList" (listRules decode) j
  return (← f.find "items" (Decode.list decode)).getD []

/-- List the objects, all of them or those that a selector accepts. -/
def list (c : Collection α) (selector : Option String) : Conversation (Except ClientError (List α)) :=
  let query := selector.map fun s => ("labelSelector", s)
  send { method := .get, path := c.path, query := Dict.ofList query.toList }
    (reading (decodeList c.kind.decode))

/-- Make an object. -/
def create (c : Collection α) (object : α) : Conversation (Except ClientError α) :=
  send { method := .post, path := c.path, body := some (c.kind.encode object) }
    (reading c.kind.decode)

/-- Replace an object. -/
def replace (c : Collection α) (name : String) (object : α) : Conversation (Except ClientError α) :=
  sendNamed name
    { method := .put, path := c.objectPath name, body := some (c.kind.encode object) }
    (reading c.kind.decode)

/-- Make or replace an object. -/
def write (c : Collection α) (name : String) (object : α) (mode : WriteMode) :
    Conversation (Except ClientError α) :=
  match mode with
  | .create => c.create object
  | .update => c.replace name object

/-- The rules for the report on a removal. -/
def reportRules : List Decode.Rule :=
  [.nullable "status" (Decode.variant ["Success", "Failure"]), .defaulted "message" Decode.text,
    .defaulted "reason" Decode.text, .defaulted "code" (Decode.intWithin 0 0xFFFF "u16")]

/-- Read the reply to a removal: a report, or the removed object. -/
def readRemoval (decode : Json → Decoded α) (j : Json) : Decoded Unit :=
  if j.field? "kind" = some (.str "Status") then
    (Decode.record "struct Status" reportRules j).map fun _ => ()
  else (decode j).map fun _ => ()

/-- Remove an object. In the background the objects that belong to it go too. -/
def delete (c : Collection α) (name : String) (inBackground : Bool) :
    Conversation (Except ClientError Unit) :=
  let options : Json :=
    if inBackground then Json.object [("propagationPolicy", .str "Background")] else .obj []
  sendNamed name { method := .delete, path := c.objectPath name, body := some options }
    (reading (readRemoval c.kind.decode))

end Collection

/-- Read the log of a container of a pod. -/
def podLog (pods : Collection Pod) (pod container : String) :
    Conversation (Except ClientError String) :=
  Collection.sendNamed pod
    { method := .get, path := pods.objectPath pod ++ "/log"
      query := Dict.ofList [("container", container)] }
    fun body => some body.toText

end TaskEngine.Cluster
