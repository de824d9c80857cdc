import TaskEngine.Proofs.Cluster.Depot
import TaskEngine.Proofs.Run

/-!
# The stores in the cluster and in memory

The engine may keep its catalog and its secrets in memory or in the cluster. From a cluster that
keeps its promises the stores give the same replies and the same errors as those in memory, call
after call: a catalog whose maps come in any order, and secrets that go out as texts and come back as
bytes. The two differ where they differ in memory too: it is an error to remove a record that is not
there, and none to remove a secret that is not there.
-/

namespace TaskEngine

/-- The replies to requests that are put one after the other. -/
def replies {Request σ : Type} {Reply : Request → Type} (answer : (r : Request) → σ → Reply r × σ) :
    List Request → σ → List ((r : Request) × Reply r)
  | [], _ => []
  | r :: rest, s => ⟨r, (answer r s).1⟩ :: replies answer rest (answer r s).2

/-- Surroundings that answer alike where their states agree, and then agree again, give the same
replies to all requests. -/
theorem replies_eq {Request σ τ : Type} {Reply : Request → Type}
    {answer : (r : Request) → σ → Reply r × σ} {other : (r : Request) → τ → Reply r × τ}
    (Agree : σ → τ → Prop) {requests : List Request}
    (hstep : ∀ r ∈ requests, ∀ s t, Agree s t →
      (answer r s).1 = (other r t).1 ∧ Agree (answer r s).2 (other r t).2)
    {s : σ} {t : τ} (h : Agree s t) : replies answer requests s = replies other requests t := by
  induction requests generalizing s t with
  | nil => rfl
  | cons r rest ih =>
    obtain ⟨hreply, hagree⟩ := hstep r List.mem_cons_self s t h
    rw [replies, replies, hreply,
      ih (fun r hr => hstep r (List.mem_cons_of_mem _ hr)) hagree]

/-- A call on the catalog about a legal name, or about all records. -/
def CatalogCall.IsLegal : CatalogCall → Prop
  | .get name | .put name _ _ | .delete name => Name.isLegal name = true
  | .list => True

/-- A call on the secret store about a legal name. -/
def SecretCall.IsLegal : SecretCall → Prop
  | .get name | .put name _ _ | .delete name => Name.isLegal name = true

namespace Cluster

variable {σ : Type} {answer : HttpRequest → σ → HttpReply × σ} {namespaceName : String}

/-! ## The catalog -/

section Catalog

variable {records : σ → Dict Record} {s : σ} {name : String}
  (h : Keeps answer (Collection.path ⟨.configMaps, namespaceName⟩) ConfigMap.Carries
    ConfigMap.Carries records)

include h

/-- The record under a name is read. -/
theorem run_catalog_get (hlegal : Name.isLegal name = true) :
    ∃ t, (answerCatalog namespaceName (.get name)).run answer s =
      (.ok ((records s).get? name), t) ∧ records t = records s := by
  cases hget : (records s).get? name with
  | none =>
    obtain ⟨t, hrun, hkept⟩ := h.run_find_absent hlegal hget
    exact ⟨t, Dialogue.run_andThen_of_ok hrun, hkept⟩
  | some record =>
    obtain ⟨m, t, hrun, ⟨-, hrecord⟩, hkept⟩ :=
      h.run_find (fun _ _ _ => ConfigMap.exists_decode) hlegal hget
    rw [← hrecord]
    exact ⟨t, Dialogue.run_andThen_of_ok hrun, hkept⟩

/-- All records are listed in the order of their names, whatever the order they come in. -/
theorem run_catalog_list :
    ∃ t, (answerCatalog namespaceName .list).run answer s = (.ok (records s).toList, t) ∧
      records t = records s := by
  obtain ⟨maps, t, hrun, ⟨entries, hperm, hmaps⟩, hkept⟩ :=
    h.run_list fun _ _ _ => ConfigMap.exists_decode
  have hentries : (maps.filterMap fun m => m.metadata.name.map (·, m.record)) = entries := by
    clear hperm hrun
    induction hmaps with
    | nil => rfl
    | cons hhead _ ih => simp [hhead.1, hhead.2, ih]
  rw [← Dict.mergeSort_eq_toList hperm, ← hentries]
  exact ⟨t, Dialogue.run_andThen_of_ok hrun, hkept⟩

/-- A record is written if the mode allows it. -/
theorem run_catalog_put (hlegal : Name.isLegal name = true) (record : Record) (mode : WriteMode) :
    ∃ t, (answerCatalog namespaceName (.put name record mode)).run answer s =
        ((mode.demand CatalogCall.resource name ((records s).contains name)).map fun _ => record,
          t) ∧
      records t = match mode.demand CatalogCall.resource name ((records s).contains name) with
        | .ok _ => (records s).insert name record
        | .error _ => records s := by
  obtain ⟨m, t, hdemand, hrun, ⟨-, hrecord⟩, hkept⟩ | ⟨e, t, hdemand, hrun, hkept⟩ :=
    h.run_write (fun _ _ _ => ConfigMap.exists_decode) hlegal
      (ConfigMap.carries_encode name (some record)) mode CatalogCall.resource
  · rw [hdemand]
    have hanswer : (answerCatalog namespaceName (.put name record mode)).run answer s =
        (.ok m.record, t) := Dialogue.run_andThen_of_ok hrun
    rw [hrecord] at hanswer
    exact ⟨t, hanswer, hkept⟩
  · rw [hdemand]
    exact ⟨t, Dialogue.run_andThen_of_ok hrun, hkept⟩

/-- A record that is there is removed, and it is an error if there is none. -/
theorem run_catalog_delete (hlegal : Name.isLegal name = true) :
    ∃ t, (answerCatalog namespaceName (.delete name)).run answer s =
        (if (records s).contains name then .ok ()
          else .error (.notFound CatalogCall.resource name), t) ∧
      records t = (records s).erase name := by
  cases hget : (records s).get? name with
  | none =>
    obtain ⟨t, hrun, hkept⟩ := h.run_delete_absent hlegal hget
    rw [Dict.contains_eq_false_iff.mpr hget, Dict.erase_eq_self hget]
    exact ⟨t, Dialogue.run_andThen_of_ok hrun, hkept⟩
  | some record =>
    obtain ⟨t, hrun, hkept⟩ := h.run_delete
      (fun _ _ _ hshown => ⟨ConfigMap.Carries.kind_ne hshown,
        (ConfigMap.exists_decode hshown).imp fun _ => And.left⟩) hlegal hget
    rw [Dict.contains_iff.mpr ⟨record, hget⟩]
    exact ⟨t, Dialogue.run_andThen_of_ok hrun, hkept⟩

/-- The catalog in the cluster answers a call as the one in memory does. -/
theorem catalog_step {call : CatalogCall} (hlegal : call.IsLegal) {store : RecordStore}
    (hsame : records s = store.records) :
    ((answerCatalog namespaceName call).run answer s).1 = (store.answerCatalog call).1 ∧
      records ((answerCatalog namespaceName call).run answer s).2 =
        (store.answerCatalog call).2.records := by
  cases call with
  | get name =>
    obtain ⟨t, hrun, hkept⟩ := run_catalog_get (s := s) h hlegal
    rw [hrun, hsame]
    exact ⟨rfl, hkept.trans hsame⟩
  | list =>
    obtain ⟨t, hrun, hkept⟩ := run_catalog_list (s := s) h
    rw [hrun, hsame]
    exact ⟨rfl, hkept.trans hsame⟩
  | put name record mode =>
    obtain ⟨t, hrun, hkept⟩ := run_catalog_put (s := s) h hlegal record mode
    rw [hsame] at hrun hkept
    rw [hrun, RecordStore.answerCatalog, RecordStore.put_eq]
    cases hdemand : mode.demand CatalogCall.resource name (store.records.contains name) with
    | ok _ | error _ =>
      rw [hdemand] at hkept
      exact ⟨rfl, hkept⟩
  | delete name =>
    obtain ⟨t, hrun, hkept⟩ := run_catalog_delete (s := s) h hlegal
    rw [hsame] at hrun hkept
    rw [hrun, RecordStore.answerCatalog]
    cases hget : store.records.get? name with
    | none =>
      rw [Dict.erase_eq_self hget] at hkept
      rw [Dict.contains_eq_false_iff.mpr hget]
      exact ⟨rfl, hkept⟩
    | some record =>
      rw [Dict.contains_iff.mpr ⟨record, hget⟩]
      exact ⟨rfl, hkept⟩

end Catalog

/-! ## The secret store -/

/-- The bytes of secrets. -/
def bytesOf (secrets : Dict Record) : Dict (Dict (List UInt8)) :=
  secrets.map fun secret => secret.map utf8Bytes

section Secrets

theorem get?_bytesOf (secrets : Dict Record) (name : String) :
    (bytesOf secrets).get? name = (secrets.get? name).map fun secret => secret.map utf8Bytes := by
  rw [bytesOf, Dict.get?_map]

theorem contains_bytesOf (secrets : Dict Record) (name : String) :
    (bytesOf secrets).contains name = secrets.contains name := by
  rw [Dict.contains, get?_bytesOf, Option.isSome_map, Dict.contains]

variable {bytes : σ → Dict (Dict (List UInt8))} {s : σ} {secrets : Dict Record} {name : String}
  (h : Keeps answer (Collection.path ⟨.secrets, namespaceName⟩) Secret.Shown Secret.Submitted
    bytes)

include h

/-- The secret under a name is read from its bytes. -/
theorem run_secrets_get (hlegal : Name.isLegal name = true) (hbytes : bytes s = bytesOf secrets) :
    ∃ t, (answerSecrets namespaceName (.get name)).run answer s = (.ok (secrets.get? name), t) ∧
      bytes t = bytesOf secrets := by
  have hget := get?_bytesOf secrets name
  cases hsecret : secrets.get? name with
  | none =>
    rw [hsecret, ← hbytes] at hget
    obtain ⟨t, hrun, hkept⟩ := h.run_find_absent hlegal hget
    exact ⟨t, Dialogue.run_andThen_of_ok hrun, hkept.trans hbytes⟩
  | some secret =>
    rw [hsecret, ← hbytes] at hget
    obtain ⟨object, t, hrun, ⟨-, hdata, htexts⟩, hkept⟩ :=
      h.run_find (fun _ _ _ => Secret.exists_decode) hlegal hget
    refine ⟨t, (Dialogue.run_andThen_of_ok hrun).trans ?_, hkept.trans hbytes⟩
    change ((Dialogue.lift (object.record name)).andThen _).run answer t = _
    rw [Secret.record_utf8Bytes name hdata htexts]
    rfl

/-- A secret is written as the bytes of its texts if the mode allows it. -/
theorem run_secrets_put (hlegal : Name.isLegal name = true)
    (hbytes : bytes s = bytesOf secrets) (secret : Record) (mode : WriteMode) :
    ∃ t, (answerSecrets namespaceName (.put name secret mode)).run answer s =
        (mode.demand SecretCall.resource name (secrets.contains name), t) ∧
      bytes t = match mode.demand SecretCall.resource name (secrets.contains name) with
        | .ok _ => bytesOf (secrets.insert name secret)
        | .error _ => bytesOf secrets := by
  rw [← contains_bytesOf, ← hbytes]
  obtain ⟨object, t, hdemand, hrun, -, hkept⟩ | ⟨e, t, hdemand, hrun, hkept⟩ :=
    h.run_write (fun _ _ _ => Secret.exists_decode) hlegal
      (Secret.submitted_ofRecord name secret) mode SecretCall.resource
  · rw [hdemand]
    refine ⟨t, Dialogue.run_andThen_of_ok hrun, hkept.trans ?_⟩
    rw [hbytes]
    exact (Dict.map_insert ..).symm
  · rw [hdemand]
    exact ⟨t, Dialogue.run_andThen_of_ok hrun, hkept⟩

/-- A secret is removed if there is one. -/
theorem run_secrets_delete (hlegal : Name.isLegal name = true)
    (hbytes : bytes s = bytesOf secrets) :
    ∃ t, (answerSecrets namespaceName (.delete name)).run answer s = (.ok (), t) ∧
      bytes t = bytesOf (secrets.erase name) := by
  have hget := get?_bytesOf secrets name
  cases hsecret : secrets.get? name with
  | none =>
    rw [hsecret, ← hbytes] at hget
    obtain ⟨t, hrun, hkept⟩ := h.run_delete_absent hlegal hget
    rw [Dict.erase_eq_self hsecret]
    exact ⟨t, Dialogue.run_andThen_of_ok hrun, hkept.trans hbytes⟩
  | some secret =>
    rw [hsecret, ← hbytes] at hget
    obtain ⟨t, hrun, hkept⟩ := h.run_delete
      (fun _ _ _ hshown => ⟨Secret.Carries.kind_ne hshown,
        (Secret.exists_decode hshown).imp fun _ => And.left⟩) hlegal hget
    refine ⟨t, Dialogue.run_andThen_of_ok hrun, hkept.trans ?_⟩
    rw [hbytes]
    exact (Dict.map_erase ..).symm

/-- The secret store in the cluster answers a call as the one in memory does. -/
theorem secrets_step {call : SecretCall} (hlegal : call.IsLegal) {store : RecordStore}
    (hsame : bytes s = bytesOf store.records) :
    ((answerSecrets namespaceName call).run answer s).1 = (store.answerSecrets call).1 ∧
      bytes ((answerSecrets namespaceName call).run answer s).2 =
        bytesOf (store.answerSecrets call).2.records := by
  cases call with
  | get name =>
    obtain ⟨t, hrun, hkept⟩ := run_secrets_get h hlegal hsame
    rw [hrun]
    exact ⟨rfl, hkept⟩
  | put name secret mode =>
    obtain ⟨t, hrun, hkept⟩ := run_secrets_put h hlegal hsame secret mode
    rw [hrun, RecordStore.answerSecrets, RecordStore.put_eq]
    cases hdemand : mode.demand SecretCall.resource name (store.records.contains name) with
    | ok _ | error _ =>
      rw [hdemand] at hkept
      exact ⟨rfl, hkept⟩
  | delete name =>
    obtain ⟨t, hrun, hkept⟩ := run_secrets_delete h hlegal hsame
    rw [hrun, RecordStore.answerSecrets]
    cases hget : store.records.get? name with
    | none =>
      rw [Dict.erase_eq_self hget] at hkept
      rw [Dict.contains_eq_false_iff.mpr hget]
      exact ⟨rfl, hkept⟩
    | some record =>
      rw [Dict.contains_iff.mpr ⟨record, hget⟩]
      exact ⟨rfl, hkept⟩

end Secrets

/-! ## Whole runs -/

/-- The stores in the cluster give the same replies and the same errors as those in memory, whatever
calls on legal names are made, and whatever the texts are that are put into them. -/
theorem stores_refine {records : σ → Dict Record} {bytes : σ → Dict (Dict (List UInt8))}
    (hmaps : Keeps answer ("/api/v1/namespaces/" ++ namespaceName ++ "/configmaps")
      ConfigMap.Carries ConfigMap.Carries records)
    (hsecrets : Keeps answer ("/api/v1/namespaces/" ++ namespaceName ++ "/secrets")
      Secret.Shown Secret.Submitted bytes) (s : σ) (store : RecordStore) :
    (∀ calls : List CatalogCall, (∀ call ∈ calls, call.IsLegal) → records s = store.records →
      replies (fun call => (answerCatalog namespaceName call).run answer) calls s =
        replies RecordStore.answerCatalog calls store) ∧
    ∀ calls : List SecretCall, (∀ call ∈ calls, call.IsLegal) →
      bytes s = bytesOf store.records →
      replies (fun call => (answerSecrets namespaceName call).run answer) calls s =
        replies RecordStore.answerSecrets calls store := by
  have hmapsPath : "/api/v1/namespaces/" ++ namespaceName ++ "/configmaps" =
      Collection.path ⟨.configMaps, namespaceName⟩ := by
    have hname : "/configmaps" = "/" ++ "configmaps" := rfl
    rw [hname, ← String.append_assoc]
    rfl
  have hsecretsPath : "/api/v1/namespaces/" ++ namespaceName ++ "/secrets" =
      Collection.path ⟨.secrets, namespaceName⟩ := by
    have hname : "/secrets" = "/" ++ "secrets" := rfl
    rw [hname, ← String.append_assoc]
    rfl
  rw [hmapsPath] at hmaps
  rw [hsecretsPath] at hsecrets
  refine ⟨fun calls hlegal hsame => ?_, fun calls hlegal hsame => ?_⟩
  · exact replies_eq (fun s store => records s = store.records)
      (fun call hcall _ _ => catalog_step hmaps (hlegal call hcall)) hsame
  · exact replies_eq (fun s store => bytes s = bytesOf store.records)
      (fun call hcall _ _ => secrets_step hsecrets (hlegal call hcall)) hsame

/-- In a small cluster that is empty at first, a record and a secret are made twice, read, and
removed twice. -/
theorem stores_refine_depot :
    let catalogCalls : List CatalogCall :=
      [.put "python" (Dict.ofList [("image", "python:3")]) .create, .put "python" ∅ .create, .list,
        .get "python", .delete "python", .delete "python", .put "python" ∅ .update]
    let secretCalls : List SecretCall :=
      [.put "python" (Dict.ofList [("token", "sesame")]) .create, .put "python" ∅ .create,
        .get "python", .delete "python", .delete "python", .put "python" ∅ .update]
    let cluster := Depot.answer "kriten"
    replies (fun call => (answerCatalog "kriten" call).run cluster) catalogCalls {} =
        replies RecordStore.answerCatalog catalogCalls {} ∧
      replies (fun call => (answerSecrets "kriten" call).run cluster) secretCalls {} =
        replies RecordStore.answerSecrets secretCalls {} := by
  intro catalogCalls secretCalls cluster
  have hrefine := stores_refine (Depot.serves_configMaps "kriten").keeps
    (Depot.serves_secrets "kriten").keeps {} {}
  have hname : Name.isLegal "python" = true := by decide
  refine ⟨hrefine.1 catalogCalls ?_ rfl, hrefine.2 secretCalls ?_ rfl⟩
  · simp [catalogCalls, CatalogCall.IsLegal, hname]
  · simp [secretCalls, SecretCall.IsLegal, hname]

end Cluster

end TaskEngine
