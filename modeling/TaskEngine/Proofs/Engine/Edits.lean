import TaskEngine.Proofs.Engine.Origins
import TaskEngine.Proofs.Engine.Unreliable

/-!
# What a call leaves of definitions and secrets

A call writes or removes at most one record, and only then the secret of its name. Over unreliable
stores the second part can be missing; the call has failed then. Calls on workloads leave both
stores as they are.
-/

namespace TaskEngine

open Engine

/-! ## Which definition a call is about -/

namespace ServiceCall

/-- The runner that a call writes, and in which mode. -/
def writtenRunner? : ServiceCall → Option (Runner × WriteMode)
  | .createRunner _ r => some (r, .create)
  | .updateRunner _ r => some (r, .update)
  | _ => none

/-- The task that a call writes, and in which mode. -/
def writtenTask? : ServiceCall → Option (Task × WriteMode)
  | .createTask _ t => some (t, .create)
  | .updateTask _ t => some (t, .update)
  | _ => none

/-- The name of the definition that a call removes, with the test for its kind. -/
def removed? : ServiceCall → Option (String × (Record → Bool))
  | .deleteRunner _ name => some (name, Runner.isRecord)
  | .deleteTask _ name => some (name, Task.isRecord)
  | _ => none

/-- The task whose schema a call edits. -/
def schemaOf? : ServiceCall → Option String
  | .updateSchema _ name _ | .deleteSchema _ name => some name
  | _ => none

/-- The owner of the secret that a call edits and nothing else. -/
def secretOf? : ServiceCall → Option String
  | .updateSecret _ name _ | .deleteSecret _ name => some name
  | _ => none

/-- What a call removes, and of which kind, is named in it. -/
theorem removed?_eq_some {call : ServiceCall} {name : String} {isKind : Record → Bool}
    (h : call.removed? = some (name, isKind)) :
    (∃ principal, call = .deleteRunner principal name ∧ isKind = Runner.isRecord) ∨
      ∃ principal, call = .deleteTask principal name ∧ isKind = Task.isRecord := by
  cases call <;> cases h
  case deleteRunner principal => exact .inl ⟨principal, rfl, rfl⟩
  case deleteTask principal => exact .inr ⟨principal, rfl, rfl⟩

/-- A runner that is written as a new one is written by a creation. -/
theorem writtenRunner?_eq_create {call : ServiceCall} {r : Runner}
    (h : call.writtenRunner? = some (r, .create)) :
    ∃ principal, call = .createRunner principal r := by
  cases call <;> cases h
  exact ⟨_, rfl⟩

end ServiceCall

namespace RecordStore

/-- The secrets after a runner was written: its token is merged. -/
def withRunner (secrets : RecordStore) (r : Runner) : RecordStore :=
  match r.token with
  | some token => secrets.mergeSecret r.name (Dict.ofList [(Runner.tokenKey, token)])
  | none => secrets

/-- The secrets after a task was written. An update without secret values removes the stored
ones. -/
def withTask (secrets : RecordStore) (t : Task) (mode : WriteMode) : RecordStore :=
  match t.secret, mode with
  | some desired, _ => secrets.mergeSecret t.name desired
  | none, .update => secrets.removeSecret t.name
  | none, .create => secrets

end RecordStore

namespace Stores

/-- Whether a definition of a kind may be written in a mode: under a free name, or in place of one
of its kind. -/
def Admits (s : Stores) (isKind : Record → Bool) (name : String) : WriteMode → Prop
  | .create => s.catalog.records.get? name = none
  | .update => s.Holds isKind name

/-- The catalog and the secrets after a call that has succeeded or not. -/
inductive Edited (unreliable : Prop) (s : Stores) (call : ServiceCall) (ok : Bool) :
    RecordStore → RecordStore → Prop
  /-- Nothing has changed; a call that is to write or remove a definition has failed. -/
  | kept
    (idle : ok = true →
      call.writtenRunner? = none ∧ call.writtenTask? = none ∧ call.removed? = none) :
    Edited unreliable s call ok s.catalog s.secrets
  /-- A runner was written, and its token merged. -/
  | runner {r : Runner} {mode : WriteMode} {secrets : RecordStore}
    (called : call.writtenRunner? = some (r, mode)) (valid : r.validate = .ok ())
    (admitted : s.Admits Runner.isRecord r.name mode)
    (rest : secrets = s.secrets.withRunner r ∨ unreliable ∧ ok = false ∧ secrets = s.secrets) :
    Edited unreliable s call ok (s.catalog.written r.name r.toRecord) secrets
  /-- A task was written, and its secret merged or removed. -/
  | task {t : Task} {mode : WriteMode} {secrets : RecordStore}
    (called : call.writtenTask? = some (t, mode)) (valid : t.validate = .ok ())
    (admitted : s.Admits Task.isRecord t.name mode)
    (rest : secrets = s.secrets.withTask t mode ∨
      unreliable ∧ ok = false ∧ secrets = s.secrets) :
    Edited unreliable s call ok (s.catalog.written t.name t.toRecord) secrets
  /-- A task was written back with another schema. -/
  | schema {name : String} {t : Task} (schema : Option Json)
    (called : call.schemaOf? = some name) (held : s.HoldsTask name) (isTask : t.runner ≠ "") :
    Edited unreliable s call ok (s.catalog.written name { t with schema }.toRecord) s.secrets
  /-- A definition was removed, and its secret. -/
  | removal {name : String} {isKind : Record → Bool} {secrets : RecordStore}
    (called : call.removed? = some (name, isKind)) (held : s.Holds isKind name)
    (rest : secrets = s.secrets.removeSecret name ∨
      unreliable ∧ ok = false ∧ secrets = s.secrets) :
    Edited unreliable s call ok { s.catalog with records := s.catalog.records.erase name } secrets
  /-- The secret of a definition was merged or removed. -/
  | secret {name : String} {secrets : RecordStore} (called : call.secretOf? = some name)
    (held : s.Holds Runner.isRecord name ∨ s.Holds Task.isRecord name)
    (rest : (∃ desired, secrets = s.secrets.mergeSecret name desired) ∨
      secrets = s.secrets.removeSecret name) :
    Edited unreliable s call ok s.catalog secrets

end Stores

/-! ## Procedures that spare both stores -/

/-- Whether a request neither writes nor removes a record or a secret. -/
def Request.Spares : Request → Prop
  | .catalog (.get _) | .catalog .list | .secrets (.get _) => True
  | .catalog _ | .secrets _ => False
  | _ => True

/-- Whether a procedure neither writes nor removes a record or a secret. -/
abbrev Procedure.Spares {α : Type} (p : Procedure α) : Prop := Dialogue.OnlyAsks Request.Spares p

/-- Who only looks spares both stores. -/
theorem Procedure.OnlyLooks.spares {α : Type} {p : Procedure α} (h : p.OnlyLooks) : p.Spares := by
  refine Dialogue.OnlyAsks.mono (fun r hr => ?_) h
  cases r with
  | catalog call => cases call <;> trivial
  | secrets call => cases call <;> trivial
  | _ => trivial

namespace Engine

/-- A call on the orchestrator spares both stores. -/
theorem spares_workloads (call : WorkloadCall) : (Procedure.workloads call).Spares :=
  ⟨trivial, fun _ => trivial⟩

theorem spares_launch (config : EngineConfig) (taskName owner : String) (vars : Option String) :
    (launch config taskName owner vars).Spares :=
  (onlyLooks_prepare taskName vars).spares.bind fun ready =>
    (spares_workloads _).bind fun created =>
      (World.onlyLooks_afterLaunch config ready owner created).spares

theorem spares_applyCronJob (config : EngineConfig) (c : CronJob) (mode : WriteMode) :
    (applyCronJob config c mode).Spares :=
  .lift_bind fun _ _ => (onlyLooks_prepare _ _).spares.bind fun _ =>
    (spares_workloads _).bind fun _ => (onlyLooks_count _).spares.bind fun _ => trivial

theorem spares_applyDeployment (config : EngineConfig) (d : Deployment) (mode : WriteMode) :
    (applyDeployment config d mode).Spares :=
  .lift_bind fun _ _ => (onlyLooks_prepare _ _).spares.bind fun _ =>
    (spares_workloads _).bind fun _ => (onlyLooks_count _).spares.bind fun _ => trivial

end Engine

/-- An audit entry is no write. -/
theorem Procedure.Spares.audited {α : Type} {p : Procedure α} (h : p.Spares) (principal : Principal)
    (action : AuditAction) (category : ResourceKind) (target : String) :
    (Procedure.audited principal action category target p).Spares :=
  Dialogue.OnlyAsks.followedBy h fun _ => ⟨trivial, fun _ => trivial⟩

namespace World

variable {unreliable : Prop} {α β : Type} {w : World} {call : ServiceCall}

/-- A procedure that spares both stores leaves them as they are. -/
theorem ensures_of_spares {p : Procedure α} (h : p.Spares) :
    w.Ensures unreliable p fun _ v => v.catalog = w.catalog ∧ v.secrets = w.secrets := by
  induction p generalizing w with
  | done result => exact ensures_done ⟨rfl, rfl⟩
  | ask r next ih =>
    refine ensures_ask fun reply u hreply => ?_
    have hkept : u.catalog = w.catalog ∧ u.secrets = w.secrets := by
      cases hreply with
      | catalog call => cases call <;> first | exact ⟨rfl, rfl⟩ | exact h.1.elim
      | secrets call => cases call <;> first | exact ⟨rfl, rfl⟩ | exact h.1.elim
      | refusedCatalog call | refusedSecrets call => exact ⟨rfl, rfl⟩
      | other r hother =>
        cases r with
        | catalog call | secrets call => exact (hother trivial).elim
        | workloads call =>
          simp only [answer, guarded]
          split <;> exact ⟨rfl, rfl⟩
        | record entry | count metric | clock | sleepUntil due => exact ⟨rfl, rfl⟩
    exact (ih reply (h.2 reply)).mono fun _ v hv =>
      ⟨hv.1.trans hkept.1, hv.2.trans hkept.2⟩

/-! ## Procedures that edit -/

/-- Whether all runs of the procedure of a call leave what the call may leave. -/
def Edits (unreliable : Prop) (w : World) (call : ServiceCall) (p : Procedure α) : Prop :=
  w.Ensures unreliable p fun result v =>
    w.stores.Edited unreliable call result.isOk v.catalog v.secrets

/-- A failure may leave everything as it was. -/
theorem kept_of_error (e : EngineError) :
    w.stores.Edited unreliable call (Except.error e : Outcome α).isOk w.catalog w.secrets :=
  .kept fun hok => by cases hok

theorem Edits.map {p : Procedure α} (h : w.Edits unreliable call p) (f : α → β) :
    w.Edits unreliable call (f <$> p) := by
  refine Ensures.map (h.mono fun result v hedited => ?_)
  cases result <;> exact hedited

theorem Edits.audited {p : Procedure α} (h : w.Edits unreliable call p) (principal : Principal)
    (action : AuditAction) (category : ResourceKind) (target : String) :
    w.Edits unreliable call (Procedure.audited principal action category target p) :=
  Ensures.audited (h.mono fun _ _ hedited _ => hedited) principal action category target

/-- What is looked up first does not count. -/
theorem Edits.bind_looks {p : Procedure α} {R : α → Prop} {next : α → Procedure β}
    (hlooks : w.Looks unreliable p R) (hnext : ∀ a, R a → w.Edits unreliable call (next a)) :
    w.Edits unreliable call (p >>= next) :=
  Ensures.bind_looks hlooks hnext fun e => kept_of_error e

/-! ## Runners -/

/-- What a mode demands of the catalog is what a write finds there. -/
theorem admits_of_demand {mode : WriteMode} {isKind : Record → Bool} {name : String}
    (hheld : mode = .update → w.stores.Holds isKind name)
    (h : mode.demand CatalogCall.resource name (w.catalog.records.contains name) = .ok ()) :
    w.stores.Admits isKind name mode := by
  cases mode with
  | create =>
    cases htaken : w.catalog.records.contains name with
    | false => exact Dict.contains_eq_false_iff.mp htaken
    | true => simp [htaken, WriteMode.demand] at h
  | update => exact hheld rfl

theorem edits_writeRunner {r : Runner} {mode : WriteMode}
    (hcalled : call.writtenRunner? = some (r, mode))
    (hheld : mode = .update → w.stores.HoldsRunner r.name) :
    w.Edits unreliable call (writeRunner r mode) := by
  refine .bind_looks (looks_lift _) fun _ hvalid => ?_
  refine .bind (ensures_catalog_put r.name r.toRecord mode) (fun a u h => ?_) fun e u h => ?_
  · obtain ⟨hdemand, -, rfl⟩ := h.resolve_right fun herror => by cases herror.1
    have hadmitted := admits_of_demand hheld hdemand
    cases htoken : r.token with
    | none =>
      refine (looks_getRunner r.name).mono fun result v hv =>
        hv.1 ▸ .runner hcalled hvalid hadmitted ?_
      exact .inl (by rw [RecordStore.withRunner, htoken]; rfl)
    | some token =>
      refine .bind (ensures_applySecret r.name _) (fun outcome v hv => ?_) fun e v hv => ?_
      · obtain rfl := hv.eq_of_ok
        refine (looks_getRunner r.name).mono fun result v hv =>
          hv.1 ▸ .runner hcalled hvalid hadmitted ?_
        exact .inl (by rw [RecordStore.withRunner, htoken]; rfl)
      · obtain ⟨hunreliable, rfl⟩ := hv.eq_of_error
        exact .runner hcalled hvalid hadmitted (.inr ⟨hunreliable, rfl, rfl⟩)
  · obtain ⟨-, rfl⟩ := h.resolve_left fun hok => by cases hok.2.1
    exact kept_of_error e

/-- A definition that is there is removed, and then its secret. -/
theorem edits_removal {name : String} {isKind : Record → Bool}
    (hcalled : call.removed? = some (name, isKind)) (hheld : w.stores.Holds isKind name) :
    w.Edits unreliable call (do
      Procedure.catalog (.delete name)
      Procedure.secrets (.delete name)) := by
  obtain ⟨record, hget, hkind⟩ := hheld
  refine .bind (ensures_catalog_delete hget) (fun a u h => ?_) fun e u h => ?_
  · obtain ⟨-, rfl⟩ := h.resolve_right fun herror => by cases herror.1
    refine (ensures_secrets_delete name).mono fun result v hv => ?_
    rcases hv with ⟨-, rfl⟩ | ⟨hunreliable, herror, rfl⟩
    · exact .removal hcalled ⟨record, hget, hkind⟩ (.inl rfl)
    · exact .removal hcalled ⟨record, hget, hkind⟩ (.inr ⟨hunreliable, herror, rfl⟩)
  · obtain ⟨-, rfl⟩ := h.resolve_left fun hok => by cases hok.1
    exact kept_of_error e

theorem edits_deleteRunner (principal : Principal) (name : String) :
    w.Edits unreliable (.deleteRunner principal name) (deleteRunner principal name) := by
  refine Edits.audited (.bind_looks (looks_loadRunner name) fun r hload => ?_) _ _ _ _
  refine .bind_looks looks_catalog_list fun records _ => ?_
  cases dependentTask? records name with
  | some task => exact ensures_done (kept_of_error _)
  | none => exact edits_removal rfl (holdsRunner_of_runnerNamed hload)

/-! ## Tasks -/

theorem ensures_storeSecret (t : Task) (mode : WriteMode) :
    w.Ensures unreliable (storeSecret t mode)
      (w.SecretsBecome unreliable (w.secrets.withTask t mode)) := by
  unfold storeSecret RecordStore.withTask
  cases t.secret with
  | some desired => exact ensures_report (ensures_applySecret t.name desired) ()
  | none =>
    cases mode with
    | create => exact ensures_pure (.inl ⟨rfl, rfl⟩)
    | update => exact ensures_secrets_delete t.name

theorem edits_writeTask {t : Task} {mode : WriteMode}
    (hcalled : call.writtenTask? = some (t, mode))
    (hheld : mode = .update → w.stores.HoldsTask t.name) :
    w.Edits unreliable call (writeTask t mode) := by
  rw [writeTask_eq]
  refine .bind_looks (looks_lift _) fun _ hvalid => .bind_looks (looks_lift _) fun _ _ => ?_
  refine .bind_looks (looks_loadRunner t.runner) fun _ _ => ?_
  refine .bind (ensures_catalog_put t.name t.toRecord mode) (fun a u h => ?_) fun e u h => ?_
  · obtain ⟨hdemand, -, rfl⟩ := h.resolve_right fun herror => by cases herror.1
    have hadmitted := admits_of_demand hheld hdemand
    refine .bind (ensures_storeSecret t mode) (fun _ v hv => ?_) fun e v hv => ?_
    · obtain rfl := hv.eq_of_ok
      exact (looks_getTask t.name).mono fun result v hv =>
        hv.1 ▸ .task hcalled hvalid hadmitted (.inl rfl)
    · obtain ⟨hunreliable, rfl⟩ := hv.eq_of_error
      exact .task hcalled hvalid hadmitted (.inr ⟨hunreliable, rfl, rfl⟩)
  · obtain ⟨-, rfl⟩ := h.resolve_left fun hok => by cases hok.2.1
    exact kept_of_error e

theorem edits_deleteTask (principal : Principal) (name : String) :
    w.Edits unreliable (.deleteTask principal name) (deleteTask principal name) := by
  refine Edits.audited (.bind_looks (looks_loadTask name) fun t hload => ?_) _ _ _ _
  refine .bind_looks (looks_listCronJobs _) fun cronJobs _ => ?_
  cases cronJobs with
  | cons c rest => exact ensures_done (kept_of_error _)
  | nil =>
    refine .bind_looks (looks_listDeployments _) fun deployments _ => ?_
    cases deployments with
    | cons d rest => exact ensures_done (kept_of_error _)
    | nil => exact edits_removal rfl (holdsTask_of_taskNamed hload)

/-- A task that loads is written back with another schema. -/
theorem edits_putSchema {name : String} {t : Task} (hcalled : call.schemaOf? = some name)
    (hload : w.taskNamed name = .ok t) (schema : Option Json) (a : α) :
    w.Edits unreliable call (do
      let _ ← Procedure.catalog (.put name { t with schema }.toRecord .update)
      return a) := by
  obtain ⟨record, hget, hrecord, hread⟩ := taskNamed_eq_ok hload
  have hrunner : t.runner ≠ "" := by
    rw [(Task.ofRecord_fields hread).2.1]
    exact Task.isRecord_iff.mp hrecord
  refine .bind (ensures_catalog_put name _ .update) (fun b u h => ?_) fun e u h => ?_
  · obtain ⟨-, -, rfl⟩ := h.resolve_right fun herror => by cases herror.1
    exact ensures_pure (.schema schema hcalled ⟨record, hget, hrecord⟩ hrunner)
  · obtain ⟨-, rfl⟩ := h.resolve_left fun hok => by cases hok.2.1
    exact kept_of_error e

theorem edits_updateSchema (principal : Principal) (name : String) (schema : Json) :
    w.Edits unreliable (.updateSchema principal name schema)
      (updateSchema principal name schema) :=
  Edits.audited (.bind_looks (looks_lift _) fun _ _ => .bind_looks (looks_loadTask name)
    fun _ hload => edits_putSchema rfl hload (some schema) schema) _ _ _ _

theorem edits_deleteSchema (principal : Principal) (name : String) :
    w.Edits unreliable (.deleteSchema principal name) (deleteSchema principal name) := by
  refine Edits.audited (.bind_looks (looks_loadTask name) fun t hload => ?_) _ _ _ _
  split
  · exact edits_putSchema rfl hload none ()
  · exact ensures_pure (.kept fun _ => ⟨rfl, rfl, rfl⟩)

/-! ## Secrets -/

/-- The owner of a secret is a runner or a task. -/
theorem holds_of_ownerOf {name : String} {kind : ResourceKind} (h : w.ownerOf name = .ok kind) :
    w.stores.HoldsRunner name ∨ w.stores.HoldsTask name := by
  rw [ownerOf] at h
  split at h
  · rename_i record hget
    cases hrunner : Runner.isRecord record with
    | true => exact .inl ⟨record, hget, hrunner⟩
    | false =>
      cases htask : Task.isRecord record with
      | true => exact .inr ⟨record, hget, htask⟩
      | false => simp [hrunner, htask] at h
  · cases h

/-- The secret of an owner is changed if there is one. -/
theorem edits_changeSecret (principal : Principal) (action : AuditAction) (name : String)
    {change : Procedure α}
    (hchange : w.stores.HoldsRunner name ∨ w.stores.HoldsTask name →
      w.Edits unreliable call change) :
    w.Edits unreliable call (changeSecret principal action name change) := by
  have hkind : w.Looks unreliable (ownerKind name).attempt
      fun kind => ∀ owner, kind = .ok owner → w.ownerOf name = .ok owner :=
    .attempt ((looks_ownerKind name).mono fun result v h =>
      ⟨h.1, fun kind hk => Except.ok.inj hk ▸ h.2⟩)
  refine .bind_looks hkind fun kind htells => ?_
  exact Edits.audited (.bind_looks (looks_lift kind) fun owner howner =>
    hchange (holds_of_ownerOf (htells owner howner))) _ _ _ _

theorem edits_updateSecret (principal : Principal) (name : String) (desired : Record) :
    w.Edits unreliable (.updateSecret principal name desired)
      (updateSecret principal name desired) := by
  refine edits_changeSecret principal .update name fun hheld => ?_
  refine .bind (ensures_applySecret name desired) (fun outcome u h => ?_) fun e u h => ?_
  · obtain rfl := h.eq_of_ok
    refine .bind_looks (looks_redactedSecret name) (fun _ _ => ensures_pure ?_) fun e => ?_
    · exact .secret rfl hheld (.inl ⟨desired, rfl⟩)
    · exact .secret rfl hheld (.inl ⟨desired, rfl⟩)
  · obtain ⟨-, rfl⟩ := h.eq_of_error
    exact kept_of_error e

theorem edits_deleteSecret (principal : Principal) (name : String) :
    w.Edits unreliable (.deleteSecret principal name) (deleteSecret principal name) := by
  refine edits_changeSecret principal .delete name fun hheld => ?_
  refine (ensures_secrets_delete name).mono fun result v hv => ?_
  rcases hv with ⟨-, rfl⟩ | ⟨-, herror, rfl⟩
  · exact .secret rfl hheld (.inr rfl)
  · exact .kept fun hok => by rw [herror] at hok; cases hok

/-! ## Every call -/

/-- A call that is about no definition and no secret spares both stores. -/
theorem edits_of_spares {p : Procedure α} (h : p.Spares) (hrunner : call.writtenRunner? = none)
    (htask : call.writtenTask? = none) (hremoved : call.removed? = none) :
    w.Edits unreliable call p := by
  refine (ensures_of_spares h).mono fun result v hv => ?_
  rw [hv.1, hv.2]
  exact .kept fun _ => ⟨hrunner, htask, hremoved⟩

/-- Whatever is called, and whatever the stores refuse, no more is changed than the call may
change. -/
theorem edits_call (config : EngineConfig) (call : ServiceCall) :
    w.Edits unreliable call (call.procedure config) := by
  cases call with
  | createRunner principal r =>
    exact (Edits.audited (edits_writeRunner rfl (by simp)) _ _ _ _).map _
  | updateRunner principal r =>
    exact (Edits.audited (.bind_looks (looks_loadRunner r.name) fun _ hload =>
      edits_writeRunner rfl fun _ => holdsRunner_of_runnerNamed hload) _ _ _ _).map _
  | deleteRunner principal name => exact (edits_deleteRunner principal name).map _
  | createTask principal t => exact (Edits.audited (edits_writeTask rfl (by simp)) _ _ _ _).map _
  | updateTask principal t =>
    exact (Edits.audited (.bind_looks (looks_loadTask t.name) fun _ hload =>
      edits_writeTask rfl fun _ => holdsTask_of_taskNamed hload) _ _ _ _).map _
  | deleteTask principal name => exact (edits_deleteTask principal name).map _
  | updateSchema principal name schema => exact (edits_updateSchema principal name schema).map _
  | deleteSchema principal name => exact (edits_deleteSchema principal name).map _
  | updateSecret principal name desired =>
    exact (edits_updateSecret principal name desired).map _
  | deleteSecret principal name => exact (edits_deleteSecret principal name).map _
  | createJob principal taskName vars =>
    exact edits_of_spares (((spares_launch config taskName principal.name vars).audited ..).map _)
      rfl rfl rfl
  | deleteJob principal id =>
    exact edits_of_spares (((spares_workloads (.deleteJob id)).audited ..).map _) rfl rfl rfl
  | createCronJob principal c =>
    exact edits_of_spares (((spares_applyCronJob config _ .create).audited ..).map _) rfl rfl rfl
  | updateCronJob principal c =>
    exact edits_of_spares (((spares_applyCronJob config _ .update).audited ..).map _) rfl rfl rfl
  | deleteCronJob principal name =>
    exact edits_of_spares (((spares_workloads (.deleteCronJob name)).audited ..).map _) rfl rfl rfl
  | createDeployment principal d =>
    exact edits_of_spares (((spares_applyDeployment config _ .create).audited ..).map _) rfl rfl rfl
  | updateDeployment principal d =>
    exact edits_of_spares (((spares_applyDeployment config _ .update).audited ..).map _) rfl rfl rfl
  | deleteDeployment principal name =>
    exact edits_of_spares (((spares_workloads (.deleteDeployment name)).audited ..).map _)
      rfl rfl rfl
  | _ => exact edits_of_spares (onlyLooks_call config rfl (by simp)).spares rfl rfl rfl

end World

end TaskEngine
