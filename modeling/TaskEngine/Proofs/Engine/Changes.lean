import TaskEngine.Proofs.Engine.Reads
import TaskEngine.Proofs.Engine.Writes

/-!
# What a mutation changes

A mutation is about one target. It either leaves the stores as they are or makes one change to its
target, and what it has looked up before the change is known of the stores then. A change is
followed by a failure in one case only: a task whose schema does not read is written and cannot be
shown.
-/

namespace TaskEngine

open Engine

/-- What a mutation is about. -/
inductive Target where
  /-- A runner or a task, with its secret. -/
  | record (name : String)
  | cronJob (name : String)
  | deployment (name : String)
  /-- A job, with its pods. -/
  | job (id : String)
  deriving DecidableEq

namespace Stores

/-- Whether there is a record of a kind under a name. -/
def Holds (s : Stores) (isKind : Record → Bool) (name : String) : Prop :=
  ∃ record, s.catalog.records.get? name = some record ∧ isKind record = true

/-- Whether there is a runner of this name. -/
abbrev HoldsRunner (s : Stores) (name : String) : Prop := s.Holds Runner.isRecord name

/-- Whether there is a task of this name. -/
abbrev HoldsTask (s : Stores) (name : String) : Prop := s.Holds Task.isRecord name

/-- Whether a task refers to this runner. -/
def RunnerUsed (s : Stores) (name : String) : Prop :=
  ∃ task record, s.catalog.records.get? task = some record ∧ Task.isRecord record = true ∧
    record.field "runner" = name

/-- Whether the selector of this task finds no scheduled job and no deployment. -/
def TaskUnselected (s : Stores) (name : String) : Prop :=
  (∀ key object, s.workloads.cronJobs.get? key = some object →
    Cluster.Selector.accepts (taskSelector name) object.metadata.labels = false) ∧
  ∀ key object, s.workloads.deployments.get? key = some object →
    Cluster.Selector.accepts (taskSelector name) object.metadata.labels = false

/-- One change to a target. -/
inductive Change (s : Stores) : Target → Stores → Prop
  /-- A runner is written, under a free name or in place of a runner. -/
  | runner {r : Runner} {secrets : RecordStore} (valid : r.validate = .ok ())
    (admitted : s.catalog.records.get? r.name = none ∨ s.HoldsRunner r.name)
    (rest : ∀ other, other ≠ r.name →
      secrets.records.get? other = s.secrets.records.get? other) :
    Change s (.record r.name)
      { s with catalog := s.catalog.written r.name r.toRecord, secrets }
  /-- A task of a runner is written, under a free name or in place of a task. -/
  | task {t : Task} {secrets : RecordStore} (valid : t.validate = .ok ())
    (runner : s.HoldsRunner t.runner)
    (admitted : s.catalog.records.get? t.name = none ∨ s.HoldsTask t.name)
    (rest : ∀ other, other ≠ t.name →
      secrets.records.get? other = s.secrets.records.get? other) :
    Change s (.record t.name)
      { s with catalog := s.catalog.written t.name t.toRecord, secrets }
  /-- A task is written back with another schema. -/
  | schema {name : String} {record : Record} {t : Task} (schema : Option Json)
    (stored : s.catalog.records.get? name = some record) (isTask : Task.isRecord record = true)
    (read : Task.ofRecord name record = .ok t) :
    Change s (.record name)
      { s with catalog := s.catalog.written name { t with schema }.toRecord }
  /-- A runner that no task refers to is removed, or a task that nothing runs. -/
  | removal {name : String}
    (unused : s.HoldsRunner name ∧ ¬ s.RunnerUsed name ∨
      s.HoldsTask name ∧ s.TaskUnselected name) :
    Change s (.record name)
      { s with
        catalog := { s.catalog with records := s.catalog.records.erase name }
        secrets := s.secrets.removeSecret name }
  /-- A secret is written or removed. -/
  | secret {name : String} {secrets : RecordStore}
    (rest : ∀ other, other ≠ name →
      secrets.records.get? other = s.secrets.records.get? other) :
    Change s (.record name) { s with secrets }
  /-- A scheduled job of a task is written under its name. -/
  | cronJob {name owner task : String} {object : Cluster.CronJob} {mutations : Nat}
    (labels : object.metadata.labels = some (Label.ofWorkload owner task))
    (held : s.HoldsTask task) (named : object.metadata.name = some name) :
    Change s (.cronJob name)
      { s with workloads :=
        { s.workloads with cronJobs := s.workloads.cronJobs.insert name object, mutations } }
  /-- A scheduled job is removed. -/
  | cronJobRemoval {name : String} {mutations : Nat} :
    Change s (.cronJob name)
      { s with workloads :=
        { s.workloads with cronJobs := s.workloads.cronJobs.erase name, mutations } }
  /-- A deployment of a task is written under its name. -/
  | deployment {name owner task : String} {object : Cluster.Deployment} {mutations : Nat}
    (labels : object.metadata.labels = some (Label.ofWorkload owner task))
    (held : s.HoldsTask task) (named : object.metadata.name = some name) :
    Change s (.deployment name)
      { s with workloads :=
        { s.workloads with deployments := s.workloads.deployments.insert name object, mutations } }
  /-- A deployment is removed. -/
  | deploymentRemoval {name : String} {mutations : Nat} :
    Change s (.deployment name)
      { s with workloads :=
        { s.workloads with deployments := s.workloads.deployments.erase name, mutations } }
  /-- A job is removed with its pods. -/
  | jobRemoval {id : String} {job : SimulatedJob} (held : s.workloads.jobs.get? id = some job) :
    Change s (.job id) { s with workloads := s.workloads.removeJob id }

end Stores

/-- Whether a value is read back from its compact text. -/
def Json.Rereads (value : Json) : Prop := ∃ again, Json.read? value.compact = some again

/-- A task whose schema is read back from its text is read back from its record. -/
theorem Task.ofRecord_toRecord_of_rereads {t : Task}
    (h : ∀ schema, t.schema = some schema → schema.Rereads) :
    ∃ again, Task.ofRecord t.name t.toRecord = .ok again := by
  have hstored : t.toRecord.get? "schema" = some ((t.schema.map Json.compact).getD "") := by
    simp [Task.toRecord, Dict.ofList, Dict.insertAll]
  simp only [Task.ofRecord, Record.filled?, hstored]
  cases hschema : t.schema with
  | none => exact ⟨_, rfl⟩
  | some schema =>
    obtain ⟨again, hagain⟩ := h schema hschema
    simp only [Option.map_some, Option.getD_some]
    split
    · exact ⟨_, rfl⟩
    · rename_i text htext
      split at htext
      · cases htext
      · cases htext
        rw [hagain]
        exact ⟨_, rfl⟩

/-! ## Calls -/

namespace ServiceCall

/-- The target of a call, if it is a mutation of what is stored; a launch is none. -/
def target? : ServiceCall → Option Target
  | .createRunner _ r | .updateRunner _ r => some (.record r.name)
  | .createTask _ t | .updateTask _ t => some (.record t.name)
  | .deleteRunner _ name | .deleteTask _ name | .updateSchema _ name _ | .deleteSchema _ name
  | .updateSecret _ name _ | .deleteSecret _ name => some (.record name)
  | .deleteJob _ id => some (.job id)
  | .createCronJob _ c | .updateCronJob _ c => some (.cronJob c.name)
  | .deleteCronJob _ name => some (.cronJob name)
  | .createDeployment _ d | .updateDeployment _ d => some (.deployment d.name)
  | .deleteDeployment _ name => some (.deployment name)
  | _ => none

/-- The schema that is submitted with a call. -/
def schema? : ServiceCall → Option Json
  | .createTask _ t | .updateTask _ t => t.schema
  | .updateSchema _ _ schema => some schema
  | _ => none

end ServiceCall

namespace World

variable {α β : Type} {w : World}

/-- A procedure leaves the stores as they are, or makes one change to a target and then, as far as
its text is read back, succeeds. -/
def Settles (w : World) (target : Target) (readable : Prop) (p : Procedure α) : Prop :=
  (w.run p).2.stores = w.stores ∨
    (w.stores.Change target (w.run p).2.stores ∧ (readable → (w.run p).1.isOk = true))

variable {target : Target} {readable : Prop}

/-- A procedure that ends with the stores as they were settles for any target. -/
theorem Settles.of_eq {p : Procedure α} {result : Outcome α} {v : World}
    (hrun : w.run p = (result, v)) (h : v.stores = w.stores) : w.Settles target readable p :=
  .inl (by rw [hrun, h])

/-- A procedure that changes its target and succeeds settles. -/
theorem Settles.of_change {p : Procedure α} {result : Outcome α} {v : World}
    (hrun : w.run p = (result, v)) (h : w.stores.Change target v.stores)
    (hok : readable → result.isOk = true) : w.Settles target readable p :=
  .inr (by rw [hrun]; exact ⟨h, hok⟩)

theorem Settles.audited {p : Procedure α} (h : w.Settles target readable p) (principal : Principal)
    (action : AuditAction) (category : ResourceKind) (name : String) :
    w.Settles target readable (Procedure.audited principal action category name p) := by
  rw [Settles, run_audited]
  exact h

theorem Settles.map {p : Procedure α} (h : w.Settles target readable p) (f : α → β) :
    w.Settles target readable (f <$> p) := by
  rw [Settles, run_map]
  refine h.imp_right fun ⟨hchange, hok⟩ => ⟨hchange, fun hr => ?_⟩
  have hp := hok hr
  cases hresult : (w.run p).1 with
  | ok a => rfl
  | error e => rw [hresult] at hp; exact hp

/-- What is looked up first does not count. -/
theorem Settles.bind {p : Procedure α} {next : α → Procedure β} {result : Outcome α} {v : World}
    (hrun : w.run p = (result, v)) (hv : v.stores = w.stores)
    (h : ∀ a, result = .ok a → v.Settles target readable (next a)) :
    w.Settles target readable (p >>= next) := by
  cases result with
  | ok a =>
    rw [Settles, run_bind_of_ok hrun, ← hv]
    exact h a rfl
  | error e => exact .of_eq (run_bind_of_error hrun next) hv

/-- What is reported in the end does not count either. -/
theorem Settles.andThen {p : Procedure α} {next : α → Procedure β}
    (h : w.Settles target readable p)
    (hnext : ∀ a v, ∃ b v', World.run v (next a) = (.ok b, v') ∧ v'.stores = v.stores) :
    w.Settles target readable (p >>= next) := by
  rw [Settles, run_bind]
  rcases hrun : w.run p with ⟨_ | a, v⟩
  · simp only [Settles, hrun] at h
    exact h.imp_right fun hchange => ⟨hchange.1, fun hr => hchange.2 hr⟩
  · obtain ⟨b, v', hb, hv⟩ := hnext a v
    simp only [Settles, hrun] at h
    simp only [hb, hv]
    exact h.imp_right fun hchange => ⟨hchange.1, fun _ => rfl⟩

/-! ## Runners -/

/-- A name under which something may be written is free or holds what is replaced. -/
theorem free_or_held {mode : WriteMode} {resource name : String} {records : Dict Record}
    {held : Prop} (hheld : mode = .update → held)
    (h : mode.demand resource name (records.contains name) = .ok ()) :
    records.get? name = none ∨ held := by
  cases mode with
  | create =>
    cases hcontains : records.contains name with
    | false => exact .inl (Dict.contains_eq_false_iff.mp hcontains)
    | true => simp [hcontains, WriteMode.demand] at h
  | update => exact .inr (hheld rfl)

theorem settles_writeRunner (h : w.StoresHold) {r : Runner} {mode : WriteMode}
    (hheld : mode = .update → w.stores.HoldsRunner r.name) :
    w.Settles (.record r.name) readable (writeRunner r mode) := by
  have hrun := run_writeRunner h r mode
  cases hadmitted : w.admitRunner r mode with
  | error e => exact .of_eq (hrun.trans (by rw [hadmitted])) rfl
  | ok u =>
    obtain ⟨⟨⟩, hvalid, hdemand⟩ := Outcome.bind_eq_ok.mp hadmitted
    rw [hadmitted] at hrun
    refine .of_change hrun (.runner hvalid ?_ ?_) fun _ => rfl
    · exact free_or_held hheld hdemand
    · intro other hne
      simp only [withRunner]
      split
      · exact RecordStore.get?_mergeSecret_of_ne hne _
      · rfl

/-- A runner that loads is held. -/
theorem holdsRunner_of_runnerNamed {name : String} {r : Runner} (h : w.runnerNamed name = .ok r) :
    w.stores.HoldsRunner name := by
  obtain ⟨record, hget, hrecord, -⟩ := runnerNamed_eq_ok h
  exact ⟨record, hget, hrecord⟩

theorem settles_createRunner (h : w.StoresHold) (principal : Principal) (r : Runner) :
    w.Settles (.record r.name) readable (createRunner principal r) := by
  have hwrite : w.Settles (.record r.name) readable (writeRunner r .create) :=
    settles_writeRunner h (by simp)
  exact hwrite.audited ..

theorem settles_updateRunner (h : w.StoresHold) (principal : Principal) (r : Runner) :
    w.Settles (.record r.name) readable (updateRunner principal r) :=
  Settles.audited (.bind (run_loadRunner h r.name) rfl fun _ hload =>
    settles_writeRunner h fun _ => holdsRunner_of_runnerNamed hload) ..

/-- No task keeps a runner from being removed exactly when none refers to it. -/
theorem dependentTask?_eq_none {name : String} :
    dependentTask? w.catalog.records.toList name = none ↔ ¬ w.stores.RunnerUsed name := by
  rw [dependentTask?, Option.map_eq_none_iff, List.find?_eq_none]
  constructor
  · rintro h ⟨task, record, hget, hrecord, hname⟩
    exact h (task, record) (Dict.mem_toList.mpr hget)
      (by simp [hrecord, TaskSummary.ofRecord, hname])
  · rintro h ⟨task, record⟩ hmem hfound
    rw [Bool.and_eq_true, decide_eq_true_eq] at hfound
    exact h ⟨task, record, Dict.mem_toList.mp hmem, hfound.1, hfound.2⟩

/-- A record that is there is removed together with its secret. -/
theorem run_removal (h : w.StoresHold) {name : String} {record : Record}
    (hget : w.catalog.records.get? name = some record) :
    w.run (do
      Procedure.catalog (.delete name)
      Procedure.secrets (.delete name)) =
      (.ok (), { w with
        catalog := { w.catalog with records := w.catalog.records.erase name }
        secrets := w.secrets.removeSecret name }) := by
  have herased : { w with
      catalog := { w.catalog with records := w.catalog.records.erase name } }.StoresHold :=
    ⟨h.catalog, h.secrets⟩
  rw [run_bind_of_ok (run_catalog_delete h hget), run_secrets_delete herased]

theorem settles_removal (h : w.StoresHold) {name : String}
    (hunused : w.stores.HoldsRunner name ∧ ¬ w.stores.RunnerUsed name ∨
      w.stores.HoldsTask name ∧ w.stores.TaskUnselected name) :
    w.Settles (.record name) readable (do
      Procedure.catalog (.delete name)
      Procedure.secrets (.delete name)) := by
  obtain ⟨record, hget⟩ : ∃ record, w.catalog.records.get? name = some record := by
    rcases hunused with ⟨⟨record, hget, -⟩, -⟩ | ⟨⟨record, hget, -⟩, -⟩ <;> exact ⟨record, hget⟩
  exact .of_change (run_removal h hget) (.removal hunused) fun _ => rfl

theorem settles_deleteRunner (h : w.StoresHold) (principal : Principal) (name : String) :
    w.Settles (.record name) readable (deleteRunner principal name) := by
  refine Settles.audited (.bind (run_loadRunner h name) rfl fun r hload => ?_) ..
  refine .bind (run_catalog_list h) rfl fun records hrecords => ?_
  cases hrecords
  cases hdependent : dependentTask? w.catalog.records.toList name with
  | some task => exact .of_eq (run_fail w _) rfl
  | none =>
    refine settles_removal h (.inl ⟨holdsRunner_of_runnerNamed hload, ?_⟩)
    exact dependentTask?_eq_none.mp hdependent

/-! ## Tasks -/

/-- A task that loads is held. -/
theorem holdsTask_of_taskNamed {name : String} {t : Task} (h : w.taskNamed name = .ok t) :
    w.stores.HoldsTask name := by
  obtain ⟨record, hget, hrecord, -⟩ := taskNamed_eq_ok h
  exact ⟨record, hget, hrecord⟩

theorem settles_writeTask (h : w.StoresHold) {t : Task} {mode : WriteMode}
    (hheld : mode = .update → w.stores.HoldsTask t.name)
    (hreadable : readable → ∀ schema, t.schema = some schema → schema.Rereads) :
    w.Settles (.record t.name) readable (writeTask t mode) := by
  have hrun := run_writeTask h t mode
  cases hadmitted : w.admitTask t mode with
  | error e => exact .of_eq (hrun.trans (by rw [hadmitted])) rfl
  | ok u =>
    obtain ⟨⟨⟩, hvalid, hadmitted'⟩ := Outcome.bind_eq_ok.mp hadmitted
    obtain ⟨⟨⟩, -, hadmitted'⟩ := Outcome.bind_eq_ok.mp hadmitted'
    obtain ⟨r, hrunner, hdemand⟩ := Outcome.bind_eq_ok.mp hadmitted'
    rw [hadmitted] at hrun
    refine .of_change hrun (.task hvalid (holdsRunner_of_runnerNamed hrunner) ?_ ?_) fun hr => ?_
    · exact free_or_held hheld hdemand
    · intro other hne
      simp only [withTask]
      split
      · exact RecordStore.get?_mergeSecret_of_ne hne _
      · exact RecordStore.get?_removeSecret_of_ne hne
      · rfl
    · obtain ⟨again, hagain⟩ := Task.ofRecord_toRecord_of_rereads (hreadable hr)
      rw [hagain]
      rfl

theorem settles_createTask (h : w.StoresHold) (principal : Principal) {t : Task}
    (hreadable : readable → ∀ schema, t.schema = some schema → schema.Rereads) :
    w.Settles (.record t.name) readable (createTask principal t) := by
  have hwrite : w.Settles (.record t.name) readable (writeTask t .create) :=
    settles_writeTask h (by simp) hreadable
  exact hwrite.audited ..

theorem settles_updateTask (h : w.StoresHold) (principal : Principal) {t : Task}
    (hreadable : readable → ∀ schema, t.schema = some schema → schema.Rereads) :
    w.Settles (.record t.name) readable (updateTask principal t) :=
  Settles.audited (.bind (run_loadTask h t.name) rfl fun _ hload =>
    settles_writeTask h (fun _ => holdsTask_of_taskNamed hload) hreadable) ..

/-- A listing of scheduled jobs looks at their labels. -/
theorem run_listCronJobs (selector : String) :
    w.run (Procedure.workloads (.listCronJobs selector)) =
      (if w.failing.contains (WorkloadCall.listCronJobs selector).name
        then .error (injected (WorkloadCall.listCronJobs selector).name)
        else .ok (Simulator.select w.workloads.cronJobs (·.metadata) selector), w) := by
  rw [run_workloads, guarded]
  cases w.failing.contains (WorkloadCall.listCronJobs selector).name <;> rfl

/-- A listing of deployments looks at their labels. -/
theorem run_listDeployments (selector : String) :
    w.run (Procedure.workloads (.listDeployments selector)) =
      (if w.failing.contains (WorkloadCall.listDeployments selector).name
        then .error (injected (WorkloadCall.listDeployments selector).name)
        else .ok (Simulator.select w.workloads.deployments (·.metadata) selector), w) := by
  rw [run_workloads, guarded]
  cases w.failing.contains (WorkloadCall.listDeployments selector).name <;> rfl

theorem settles_deleteTask (h : w.StoresHold) (principal : Principal) (name : String) :
    w.Settles (.record name) readable (deleteTask principal name) := by
  refine Settles.audited (.bind (run_loadTask h name) rfl fun t hload => ?_) ..
  refine .bind (run_listCronJobs _) rfl fun cronJobs hcronJobs => ?_
  cases cronJobs with
  | cons c rest => exact .of_eq (run_fail w _) rfl
  | nil =>
    refine .bind (run_listDeployments _) rfl fun deployments hdeployments => ?_
    cases deployments with
    | cons d rest => exact .of_eq (run_fail w _) rfl
    | nil =>
      refine settles_removal h (.inr ⟨holdsTask_of_taskNamed hload, ?_, ?_⟩)
      · split at hcronJobs
        · cases hcronJobs
        · exact Simulator.select_eq_nil.mp (Except.ok.inj hcronJobs)
      · split at hdeployments
        · cases hdeployments
        · exact Simulator.select_eq_nil.mp (Except.ok.inj hdeployments)

/-- A task that loads may be written back with another schema. -/
theorem settles_putSchema (h : w.StoresHold) {name : String} {t : Task}
    (hload : w.taskNamed name = .ok t) (schema : Option Json) (a : α) :
    w.Settles (.record name) readable (do
      let _ ← Procedure.catalog (.put name { t with schema }.toRecord .update)
      return a) := by
  obtain ⟨record, hget, hrecord, hread⟩ := taskNamed_eq_ok hload
  have htaken : w.catalog.records.contains name = true := Dict.contains_iff.mpr ⟨record, hget⟩
  have hput := run_catalog_put h name { t with schema }.toRecord .update
  simp only [htaken, WriteMode.demand] at hput
  exact .of_change (run_bind_of_ok hput _) (.schema schema hget hrecord hread) fun _ => rfl

theorem settles_updateSchema (h : w.StoresHold) (principal : Principal) (name : String)
    (schema : Json) : w.Settles (.record name) readable (updateSchema principal name schema) := by
  refine Settles.audited (.bind (run_lift w _) rfl fun _ _ => ?_) ..
  refine .bind (run_loadTask h name) rfl fun t hload => ?_
  exact settles_putSchema h hload (some schema) schema

theorem settles_deleteSchema (h : w.StoresHold) (principal : Principal) (name : String) :
    w.Settles (.record name) readable (deleteSchema principal name) := by
  refine Settles.audited (.bind (run_loadTask h name) rfl fun t hload => ?_) ..
  split
  · exact settles_putSchema h hload none ()
  · exact .of_eq (run_pure w ()) rfl

/-! ## Secrets -/

/-- A change to the secret of an owner is made if there is one. -/
theorem settles_changeSecret (h : w.StoresHold) (principal : Principal) (action : AuditAction)
    (name : String) {change : Procedure α} (hchange : w.Settles target readable change) :
    w.Settles target readable (changeSecret principal action name change) := by
  have hkind : w.run (ownerKind name).attempt = (.ok (w.ownerOf name), w) := by
    rw [run_attempt, run_ownerKind h]
  refine .bind hkind rfl fun kind _ => Settles.audited ?_ ..
  exact .bind (run_lift w kind) rfl fun _ _ => hchange

theorem settles_updateSecret (h : w.StoresHold) (principal : Principal) (name : String)
    (desired : Record) :
    w.Settles (.record name) readable (updateSecret principal name desired) := by
  refine settles_changeSecret h principal .update name ?_
  obtain ⟨outcome, hmerge⟩ := run_applySecret h name desired
  have hafter : { w with secrets := w.secrets.mergeSecret name desired }.StoresHold :=
    ⟨h.catalog, h.secrets⟩
  refine .of_change ((run_bind_of_ok hmerge _).trans
    (run_bind_of_ok (run_redactedSecret hafter name) _)) (.secret fun other hne => ?_) fun _ => rfl
  exact RecordStore.get?_mergeSecret_of_ne hne desired

theorem settles_deleteSecret (h : w.StoresHold) (principal : Principal) (name : String) :
    w.Settles (.record name) readable (deleteSecret principal name) := by
  refine settles_changeSecret h principal .delete name ?_
  exact .of_change (run_secrets_delete h name)
    (.secret fun other hne => RecordStore.get?_removeSecret_of_ne hne) fun _ => rfl

/-! ## Workloads -/

/-- A call on the orchestrator settles if its answer does. -/
theorem settles_workloads {call : WorkloadCall}
    (h : (w.workloads.answer (Instant.ofMillis w.now) call).2 = w.workloads ∨
      w.stores.Change target
        { w.stores with workloads := (w.workloads.answer (Instant.ofMillis w.now) call).2 } ∧
      (w.workloads.answer (Instant.ofMillis w.now) call).1.isOk = true) :
    w.Settles target readable (Procedure.workloads call) := by
  rw [Settles, run_workloads, guarded]
  split
  · exact .inl rfl
  · refine h.imp (fun hsame => ?_) fun hchange => ⟨hchange.1, fun _ => hchange.2⟩
    simp only [stores, hsame]

theorem settles_deleteJob (principal : Principal) (id : String) :
    w.Settles (.job id) readable (deleteJob principal id) := by
  refine Settles.audited (settles_workloads ?_) ..
  simp only [Simulator.answer, Simulator.find]
  cases hget : w.workloads.jobs.get? id with
  | none => exact .inl rfl
  | some found => exact .inr ⟨.jobRemoval hget, rfl⟩

theorem settles_deleteCronJob (principal : Principal) (name : String) :
    w.Settles (.cronJob name) readable (deleteCronJob principal name) := by
  refine Settles.audited (settles_workloads ?_) ..
  simp only [Simulator.answer, Simulator.find]
  cases w.workloads.cronJobs.get? name with
  | none => exact .inl rfl
  | some found => exact .inr ⟨.cronJobRemoval, rfl⟩

theorem settles_deleteDeployment (principal : Principal) (name : String) :
    w.Settles (.deployment name) readable (deleteDeployment principal name) := by
  refine Settles.audited (settles_workloads ?_) ..
  simp only [Simulator.answer, Simulator.find]
  cases w.workloads.deployments.get? name with
  | none => exact .inl rfl
  | some found => exact .inr ⟨.deploymentRemoval, rfl⟩

/-- A prepared launch is one of a task that is held. -/
theorem holdsTask_of_prepared {taskName : String} {vars : Option String} {ready : Preparation}
    (h : w.prepared taskName vars = .ok ready) :
    ready.task.name = taskName ∧ w.stores.HoldsTask taskName := by
  obtain ⟨t, hload, hrest⟩ := Outcome.bind_eq_ok.mp h
  obtain ⟨r, -, hrest⟩ := Outcome.bind_eq_ok.mp hrest
  obtain ⟨u, -, hready⟩ := Outcome.bind_eq_ok.mp hrest
  cases hready
  obtain ⟨record, hget, hrecord, hread⟩ := taskNamed_eq_ok hload
  exact ⟨(Task.ofRecord_fields hread).1, record, hget, hrecord⟩

theorem settles_applyCronJob (h : w.StoresHold) (config : EngineConfig) (c : CronJob)
    (mode : WriteMode) : w.Settles (.cronJob c.name) readable (applyCronJob config c mode) := by
  refine .bind (run_lift w _) rfl fun _ _ => ?_
  obtain ⟨metrics, hprepare⟩ := run_prepare h c.task (ExtraVars.encode c.extraVars)
  refine .bind hprepare rfl fun ready hready => ?_
  obtain ⟨hname, hheld⟩ := holdsTask_of_prepared hready
  refine .andThen (settles_workloads ?_) fun object v => ⟨_, _, rfl, rfl⟩
  simp only [Simulator.answer, Simulator.store, Workload.cronJob]
  cases hdemand : mode.demand WorkloadCall.cronJobResource c.name
      (w.workloads.cronJobs.contains c.name) with
  | error e => exact .inl rfl
  | ok u => exact .inr ⟨.cronJob rfl (hname ▸ hheld) rfl, rfl⟩

theorem settles_applyDeployment (h : w.StoresHold) (config : EngineConfig) (d : Deployment)
    (mode : WriteMode) :
    w.Settles (.deployment d.name) readable (applyDeployment config d mode) := by
  refine .bind (run_lift w _) rfl fun _ _ => ?_
  obtain ⟨metrics, hprepare⟩ := run_prepare h d.task (ExtraVars.encode d.extraVars)
  refine .bind hprepare rfl fun ready hready => ?_
  obtain ⟨hname, hheld⟩ := holdsTask_of_prepared hready
  refine .andThen (settles_workloads ?_) fun object v => ⟨_, _, rfl, rfl⟩
  simp only [Simulator.answer, Simulator.store, Workload.deployment]
  cases hdemand : mode.demand WorkloadCall.deploymentResource d.name
      (w.workloads.deployments.contains d.name) with
  | error e => exact .inl rfl
  | ok u => exact .inr ⟨.deployment rfl (hname ▸ hheld) rfl, rfl⟩

/-! ## Every mutation -/

/-- A mutation leaves the stores as they are or makes one change to its target, and succeeds then
unless it has submitted a schema that is not read back. -/
theorem settles_call (h : w.StoresHold) (config : EngineConfig) {call : ServiceCall}
    (htarget : call.target? = some target) :
    w.Settles target (∀ schema, call.schema? = some schema → schema.Rereads)
      (call.procedure config) := by
  cases call <;> cases htarget
  case createRunner principal r => exact (settles_createRunner h principal r).map _
  case updateRunner principal r => exact (settles_updateRunner h principal r).map _
  case deleteRunner principal name => exact (settles_deleteRunner h principal name).map _
  case createTask principal t => exact (settles_createTask h principal fun hr => hr).map _
  case updateTask principal t => exact (settles_updateTask h principal fun hr => hr).map _
  case deleteTask principal name => exact (settles_deleteTask h principal name).map _
  case updateSchema principal name schema =>
    exact (settles_updateSchema h principal name schema).map _
  case deleteSchema principal name => exact (settles_deleteSchema h principal name).map _
  case updateSecret principal name desired =>
    exact (settles_updateSecret h principal name desired).map _
  case deleteSecret principal name => exact (settles_deleteSecret h principal name).map _
  case deleteJob principal id => exact (settles_deleteJob principal id).map _
  case createCronJob principal c =>
    exact ((settles_applyCronJob h config { c with owner := principal.name } .create).audited
      ..).map _
  case updateCronJob principal c =>
    exact ((settles_applyCronJob h config { c with owner := principal.name } .update).audited
      ..).map _
  case deleteCronJob principal name => exact (settles_deleteCronJob principal name).map _
  case createDeployment principal d =>
    exact ((settles_applyDeployment h config { d with owner := principal.name } .create).audited
      ..).map _
  case updateDeployment principal d =>
    exact ((settles_applyDeployment h config { d with owner := principal.name } .update).audited
      ..).map _
  case deleteDeployment principal name => exact (settles_deleteDeployment principal name).map _

end World

end TaskEngine
