import TaskEngine.Cluster.Client
import TaskEngine.Engine.Call

/-!
# The stores in the cluster

The catalog is kept in maps of texts and the secrets in maps of bytes, and the workloads are objects
of the cluster themselves. A call on a store is a conversation with the cluster; the refusals of the
cluster become the errors that the stores in memory give too.
-/

namespace TaskEngine.Cluster

/-- Take over an answer, with the error about an object of a type and name. -/
def settle {α : Type} (resource name : String) (answer : Except ClientError α) : Conversation α :=
  Dialogue.lift (answer.mapError (ClientError.toEngine resource name))

/-! ## The catalog -/

/-- What errors call all records. -/
def everyName : String := "*"

/-- The record that a map of texts holds. -/
def ConfigMap.record (m : ConfigMap) : Record := m.data.getD ∅

/-- The map of texts that holds a record. -/
def ConfigMap.ofRecord (name : String) (record : Record) : ConfigMap :=
  { metadata := { name := some name }, data := some record }

/-- Answer a call on the catalog. -/
def answerCatalog (namespaceName : String) : (call : CatalogCall) → Conversation call.Reply
  | .get name => do
    let answer ← Collection.find ⟨.configMaps, namespaceName⟩ name
    return (← settle CatalogCall.resource name answer).map ConfigMap.record
  | .list => do
    let answer ← Collection.list ⟨.configMaps, namespaceName⟩ none
    let maps ← settle CatalogCall.resource everyName answer
    let records := maps.filterMap fun m => m.metadata.name.map (·, m.record)
    return records.mergeSort fun a b => a.1 ≤ b.1
  | .put name record mode => do
    let answer ← Collection.write ⟨.configMaps, namespaceName⟩ name (.ofRecord name record) mode
    return (← settle CatalogCall.resource name answer).record
  | .delete name => do
    let answer ← Collection.delete ⟨.configMaps, namespaceName⟩ name false
    settle CatalogCall.resource name answer

/-! ## The secret store -/

/-- The kind of contents of the secrets of the engine. -/
def Secret.opaqueType : String := "Opaque"

/-- The map of bytes that holds a secret. -/
def Secret.ofRecord (name : String) (secret : Record) : Secret :=
  { metadata := { name := some name }, type := some opaqueType, stringData := some secret }

/-- The texts of the entries of a map of bytes. -/
def Secret.readTexts (name : String) : List (String × List UInt8) → Outcome (List (String × String))
  | [] => .ok []
  | (key, bytes) :: rest =>
    match String.fromUTF8? ⟨bytes.toArray⟩ with
    | some text => do return (key, text) :: (← readTexts name rest)
    | none => .error (.serialization ("secret " ++ name ++ " key " ++ key ++ " is not valid UTF-8"))

/-- The secret that a map of bytes holds. Texts that were not folded in yet count too. -/
def Secret.record (name : String) (s : Secret) : Outcome Record := do
  let texts ← readTexts name (s.data.getD ∅).toList
  return (Dict.ofList texts).insertAll (s.stringData.getD ∅).toList

/-- Answer a call on the secret store. -/
def answerSecrets (namespaceName : String) : (call : SecretCall) → Conversation call.Reply
  | .get name => do
    let answer ← Collection.find ⟨.secrets, namespaceName⟩ name
    match ← settle SecretCall.resource name answer with
    | some secret => return some (← Dialogue.lift (secret.record name))
    | none => return none
  | .put name secret mode => do
    let answer ← Collection.write ⟨.secrets, namespaceName⟩ name (.ofRecord name secret) mode
    let _ ← settle SecretCall.resource name answer
  | .delete name => do
    match ← Collection.delete ⟨.secrets, namespaceName⟩ name false with
    | .error e =>
      if e.isAbsent then return () else settle SecretCall.resource name (.error e)
    | .ok () => return ()

/-! ## Workloads -/

/-- The name of an object that has to have one. -/
def demandName (resource : String) (metadata : Meta) : Conversation String :=
  match metadata.name with
  | some name => Dialogue.succeed name
  | none => Dialogue.fail (WorkloadCall.unnamed resource)

/-- What errors call a job that is submitted. -/
def submittedName (m : Meta) : String := (m.generateName <|> m.name).getD ""

/-- Answer a call on the orchestrator. -/
def answerWorkloads (namespaceName : String) : (call : WorkloadCall) → Conversation call.Reply
  | .createJob job => do
    let answer ← Collection.create ⟨.jobs, namespaceName⟩ job
    settle WorkloadCall.jobResource (submittedName job.metadata) answer
  | .getJob name => do
    settle WorkloadCall.jobResource name (← Collection.get ⟨.jobs, namespaceName⟩ name)
  | .listJobs selector => do
    settle WorkloadCall.jobResource selector
      (← Collection.list ⟨.jobs, namespaceName⟩ (some selector))
  | .deleteJob name => do
    settle WorkloadCall.jobResource name (← Collection.delete ⟨.jobs, namespaceName⟩ name true)
  | .applyCronJob object mode => do
    let name ← demandName WorkloadCall.cronJobResource object.metadata
    settle WorkloadCall.cronJobResource name
      (← Collection.write ⟨.cronJobs, namespaceName⟩ name object mode)
  | .getCronJob name => do
    settle WorkloadCall.cronJobResource name (← Collection.get ⟨.cronJobs, namespaceName⟩ name)
  | .listCronJobs selector => do
    settle WorkloadCall.cronJobResource selector
      (← Collection.list ⟨.cronJobs, namespaceName⟩ (some selector))
  | .deleteCronJob name => do
    settle WorkloadCall.cronJobResource name
      (← Collection.delete ⟨.cronJobs, namespaceName⟩ name true)
  | .applyDeployment object mode => do
    let name ← demandName WorkloadCall.deploymentResource object.metadata
    settle WorkloadCall.deploymentResource name
      (← Collection.write ⟨.deployments, namespaceName⟩ name object mode)
  | .getDeployment name => do
    settle WorkloadCall.deploymentResource name
      (← Collection.get ⟨.deployments, namespaceName⟩ name)
  | .listDeployments selector => do
    settle WorkloadCall.deploymentResource selector
      (← Collection.list ⟨.deployments, namespaceName⟩ (some selector))
  | .deleteDeployment name => do
    settle WorkloadCall.deploymentResource name
      (← Collection.delete ⟨.deployments, namespaceName⟩ name true)
  | .listPods selector => do
    settle WorkloadCall.podResource selector
      (← Collection.list ⟨.pods, namespaceName⟩ (some selector))
  | .podLogs pod container => do
    settle WorkloadCall.podResource pod (← podLog ⟨.pods, namespaceName⟩ pod container)

end TaskEngine.Cluster
