import TaskEngine.Proofs.Engine.Definitions
import TaskEngine.Proofs.SecretUpdates

/-!
# Reading and writing definitions

A definition goes to two stores: its record to the catalog, its secret values to the secret store,
where they are merged. What a write shows is read back from there. So a write shows the definition
that it was given, up to the hidden values of the secret that comes of the merge, and a read shows the
same from then on. Writing what a read shows changes nothing: stand-ins merge to the stored values,
and a secret that is absent is shown as none, which removes nothing.
-/

namespace TaskEngine

open Engine

/-! ## Merged secrets -/

namespace Secret

/-- The secret that is kept: one without keys is not. -/
def kept (secret : Record) : Option Record := if secret.isEmpty then none else some secret

end Secret

namespace RecordStore

variable {s : RecordStore} {name : String}

/-- An update that would change nothing is not written. -/
theorem mergeSecret_eq_self {desired : Record}
    (h : s.mergedSecret name desired = (s.records.get? name).getD ∅) :
    s.mergeSecret name desired = s := by
  simp only [mergeSecret, h]
  cases hstored : s.records.get? name with
  | none => rfl
  | some stored => simp

/-- The removal of a secret that is not there is not counted. -/
theorem removeSecret_eq_self (h : s.records.get? name = none) : s.removeSecret name = s := by
  rw [removeSecret, Dict.contains_eq_false_iff.mpr h]
  rfl

/-- What is stored after an update, where no secret without keys was. -/
theorem get?_mergeSecret (hkeys : s.records.get? name ≠ some ∅) (desired : Record) :
    (s.mergeSecret name desired).records.get? name = Secret.kept (s.mergedSecret name desired) := by
  rw [records_mergeSecret, if_neg hkeys, Secret.kept]
  split <;> simp

/-- Nothing is stored after a removal. -/
theorem get?_removeSecret : (s.removeSecret name).records.get? name = none := by
  rw [removeSecret]
  split
  · simp
  · rename_i hfree
    exact Dict.contains_eq_false_iff.mp (by simpa using hfree)

end RecordStore

/-! ## Writes that end in a read -/

namespace Engine

/-- Create or replace a task. -/
def putTask (principal : Principal) (t : Task) : WriteMode → Procedure Task
  | .create => createTask principal t
  | .update => updateTask principal t

/-- Create or replace a runner. -/
def putRunner (principal : Principal) (r : Runner) : WriteMode → Procedure Runner
  | .create => createRunner principal r
  | .update => updateRunner principal r

end Engine

namespace World

variable {w : World}

/-- Whether a task may be created or replaced, or why not. Only one that loads is replaced. -/
def acceptTask (w : World) (t : Task) : WriteMode → Outcome Unit
  | .create => w.admitTask t .create
  | .update => do
    let _ ← w.taskNamed t.name
    w.admitTask t .update

/-- Whether a runner may be created or replaced, or why not. -/
def acceptRunner (w : World) (r : Runner) : WriteMode → Outcome Unit
  | .create => w.admitRunner r .create
  | .update => do
    let _ ← w.runnerNamed r.name
    w.admitRunner r .update

/-- Up to its audit entry, a task is refused with nothing changed, or written and read back. -/
theorem run_putTask (h : w.StoresHold) (principal : Principal) (t : Task) (mode : WriteMode) :
    ∃ audit, w.run (putTask principal t mode) = match w.acceptTask t mode with
      | .ok () => ((Task.ofRecord t.name t.toRecord).map (w.withTask t mode).shownTask,
          { w.withTask t mode with audit })
      | .error e => (.error e, { w with audit }) := by
  cases mode with
  | create =>
    rw [putTask, createTask, run_audited, run_writeTask h, acceptTask]
    cases w.admitTask t .create <;> exact ⟨_, rfl⟩
  | update =>
    rw [putTask, updateTask, run_audited, run_bind, run_loadTask h, acceptTask]
    cases w.taskNamed t.name with
    | error e => exact ⟨_, rfl⟩
    | ok old =>
      simp only [run_writeTask h, Outcome.ok_bind]
      cases w.admitTask t .update <;> exact ⟨_, rfl⟩

/-- Up to its audit entry, a runner is refused with nothing changed, or written and read back. -/
theorem run_putRunner (h : w.StoresHold) (principal : Principal) (r : Runner) (mode : WriteMode) :
    ∃ audit, w.run (putRunner principal r mode) = match w.acceptRunner r mode with
      | .ok () => (.ok ((w.withRunner r).shownRunner (Runner.ofRecord r.name r.toRecord)),
          { w.withRunner r with audit })
      | .error e => (.error e, { w with audit }) := by
  cases mode with
  | create =>
    rw [putRunner, createRunner, run_audited, run_writeRunner h, acceptRunner]
    cases w.admitRunner r .create <;> exact ⟨_, rfl⟩
  | update =>
    rw [putRunner, updateRunner, run_audited, run_bind, run_loadRunner h, acceptRunner]
    cases w.runnerNamed r.name with
    | error e => exact ⟨_, rfl⟩
    | ok old =>
      simp only [run_writeRunner h, Outcome.ok_bind]
      cases w.admitRunner r .update <;> exact ⟨_, rfl⟩

/-! ## Writing what was read -/

/-- Writing what a read shows gives it back, leaves every record as it was and writes no secret. -/
def WritesBack {α : Type} (w : World) (read : Procedure α) (write : α → Procedure α) : Prop :=
  ∀ shown, (w.run read).1 = .ok shown →
    (w.run (write shown)).1 = .ok shown ∧
      (w.run (write shown)).2.catalog.records = w.catalog.records ∧
      (w.run (write shown)).2.secrets = w.secrets

/-- What is shown of the secret of a task merges to what is stored. -/
theorem secrets_withTask_shown (w : World) (t : Task) :
    (w.withTask (w.shownTask t) .update).secrets = w.secrets := by
  rcases Option.eq_none_or_eq_some (w.secrets.records.get? t.name) with hstored | ⟨stored, hstored⟩
  · have hshown : (w.shownTask t).secret = none := by rw [shownTask, hstored]; rfl
    simp only [withTask, hshown]
    exact RecordStore.removeSecret_eq_self hstored
  · have hshown : (w.shownTask t).secret = some (Secret.redact stored) := by
      rw [shownTask, hstored]; rfl
    simp only [withTask, hshown]
    refine RecordStore.mergeSecret_eq_self (Secret.merge_of_standIn (fun entry hentry => ?_) _)
    exact Secret.eq_standIn_of_mem_redact hentry

/-- What is shown of the token of a runner merges to what is stored. -/
theorem secrets_withRunner_shown (w : World) {r : Runner} (htoken : r.token = none) :
    (w.withRunner (w.shownRunner r)).secrets = w.secrets := by
  rw [shownRunner]
  split
  · refine RecordStore.mergeSecret_eq_self (Secret.merge_of_standIn (fun entry hentry => ?_) _)
    cases List.mem_singleton.mp hentry
    rfl
  · simp only [withRunner, htoken]

/-- A task that is stored as the record of a valid definition, of which nothing is lost, is written
back. -/
theorem writesBack_task (h : w.StoresHold) (hsound : w.stores.Sound) (principal : Principal)
    {t : Task} (hstored : w.catalog.records.get? t.name = some t.toRecord)
    (hvalid : t.validate = .ok ()) (hsecret : t.secret = none)
    (hchecked : ∀ schema, t.schema = some schema → Schema.check schema = .ok ())
    (hback : ∀ schema, t.schema = some schema → schema.ReadsBack) :
    w.WritesBack (getTask t.name) (updateTask principal) := by
  intro shown hget
  have hrecord := Task.isRecord_toRecord hvalid
  have hload := taskNamed_of_stored hstored hvalid
  rw [run_getTask h, hload] at hget
  obtain ⟨read, hread, rfl⟩ := Outcome.map_eq_ok.mp hget
  -- What is read is the definition itself.
  obtain rfl : read = t := by
    rw [Task.ofRecord_toRecord_eq_ok hback hread]
    cases t
    cases hsecret
    rfl
  obtain ⟨runner, hrunner⟩ : ∃ r, w.runnerNamed read.runner = .ok r := by
    have hheld := hsound.runner read.name read.toRecord hstored hrecord
    rw [Task.field_runner_toRecord] at hheld
    exact runnerNamed_of_holds hheld
  have hchecks : checkedSchema (w.shownTask read) = .ok () := by
    rw [checkedSchema, shownTask]
    cases hschema : read.schema with
    | none => rfl
    | some schema => exact hchecked schema hschema
  have hadmits : w.admitTask (w.shownTask read) .update = .ok () := by
    refine Outcome.bind_eq_ok.mpr ⟨(), hvalid, Outcome.bind_eq_ok.mpr ⟨(), hchecks, ?_⟩⟩
    exact Outcome.bind_eq_ok.mpr ⟨runner, hrunner, demand_update_eq_ok hstored⟩
  have haccepts : w.acceptTask (w.shownTask read) .update = .ok () :=
    Outcome.bind_eq_ok.mpr ⟨read, hload.trans hread, hadmits⟩
  obtain ⟨audit, hrun⟩ := run_putTask h principal (w.shownTask read) .update
  have hsecrets := secrets_withTask_shown w read
  rw [haccepts] at hrun
  change w.run (updateTask principal (w.shownTask read)) = _ at hrun
  rw [hrun]
  refine ⟨?_, Dict.insert_eq_self hstored, hsecrets⟩
  refine Outcome.map_eq_ok.mpr ⟨read, hread, ?_⟩
  rw [shownTask, hsecrets, shownTask]

/-- A runner that is stored as the record of a valid definition is written back. -/
theorem writesBack_runner (h : w.StoresHold) (principal : Principal) {r : Runner}
    (hstored : w.catalog.records.get? r.name = some r.toRecord) (hvalid : r.validate = .ok ()) :
    w.WritesBack (getRunner r.name) (updateRunner principal) := by
  intro shown hget
  let read : Runner := { r with branch := r.effectiveBranch, token := none }
  have hload : w.runnerNamed r.name = .ok read := runnerNamed_of_stored hstored hvalid
  rw [run_getRunner h, hload] at hget
  obtain rfl : w.shownRunner read = shown := Except.ok.inj hget
  obtain ⟨token, hshown⟩ : ∃ token, w.shownRunner read = { read with token } := by
    rw [shownRunner]
    split <;> exact ⟨_, rfl⟩
  have hname : (w.shownRunner read).name = r.name := by rw [hshown]
  have hrecord : (w.shownRunner read).toRecord = r.toRecord :=
    hshown ▸ r.toRecord_effectiveBranch token
  have hadmits : w.admitRunner (w.shownRunner read) .update = .ok () := by
    refine Outcome.bind_eq_ok.mpr ⟨(), ?_, ?_⟩
    · rw [hshown]
      exact (r.validate_effectiveBranch token).trans hvalid
    · rw [hname]
      exact demand_update_eq_ok hstored
  have haccepts : w.acceptRunner (w.shownRunner read) .update = .ok () :=
    Outcome.bind_eq_ok.mpr ⟨read, hname ▸ hload, hadmits⟩
  obtain ⟨audit, hrun⟩ := run_putRunner h principal (w.shownRunner read) .update
  have hsecrets : (w.withRunner (w.shownRunner read)).secrets = w.secrets :=
    secrets_withRunner_shown w rfl
  rw [haccepts, hrecord, hname, Runner.ofRecord_toRecord] at hrun
  change w.run (updateRunner principal (w.shownRunner read)) = _ at hrun
  rw [hrun]
  refine ⟨congrArg Except.ok ?_, ?_, hsecrets⟩
  · rw [shownRunner, hsecrets, shownRunner]
  · change w.catalog.records.insert _ _ = _
    rw [hname, hrecord, Dict.insert_eq_self hstored]

/-- All along a session whose schemas are read back from their texts as they are, a task or a runner
that is read is written back with nothing changed. -/
theorem write_back (config : EngineConfig) {events : List SessionEvent}
    (hback : ∀ schema ∈ SessionEvent.schemas events, schema.ReadsBack) (principal : Principal)
    (name : String) :
    (World.after config {} events).WritesBack (getTask name) (updateTask principal) ∧
      (World.after config {} events).WritesBack (getRunner name) (updateRunner principal) := by
  have hholds := storesHold_after config events
  have hsound := stores_after Stores.sound_empty Stores.Sound.step config events
  constructor
  · intro shown hget
    have hload := hget
    rw [run_getTask hholds] at hload
    obtain ⟨read, hread, -⟩ := Outcome.map_eq_ok.mp hload
    obtain ⟨record, hstored, htask, -⟩ := taskNamed_eq_ok hread
    obtain ⟨t, rfl, hsecret, hvalid, rfl, hintroduced⟩ := exists_task_after config events hstored htask
    exact writesBack_task hholds hsound principal hstored hvalid hsecret
      (fun schema hschema => (hintroduced schema hschema).2)
      (fun schema hschema => hback schema (hintroduced schema hschema).1) shown hget
  · intro shown hget
    have hload := hget
    rw [run_getRunner hholds] at hload
    obtain ⟨read, hread, -⟩ := Outcome.map_eq_ok.mp hload
    obtain ⟨record, hstored, hrunner, -⟩ := runnerNamed_eq_ok hread
    obtain ⟨r, rfl, hvalid, rfl⟩ := exists_runner_after config events hstored hrunner
    exact writesBack_runner hholds principal hstored hvalid shown hget

/-- A greeting with a schema and secrets, of its task and of its runner. -/
def furnished : List SessionEvent := greeting ++
  [.call (.updateSchema ⟨"alice", "local"⟩ "hello" (.obj [("type", .str "object")])),
    .call (.updateSecret ⟨"alice", "local"⟩ "hello" (Dict.ofList [("password", "sesame")])),
    .call (.updateSecret ⟨"alice", "local"⟩ "shell" (Dict.ofList [(Runner.tokenKey, "ghp")]))]

/-- The task and the runner of the greeting are read and written back. -/
theorem write_back_furnished :
    ((World.after .standard {} furnished).run (getTask "hello")).1.isOk = true ∧
      (World.after .standard {} furnished).WritesBack (getTask "hello")
        (updateTask ⟨"alice", "local"⟩) ∧
      ((World.after .standard {} furnished).run (getRunner "shell")).1.isOk = true ∧
      (World.after .standard {} furnished).WritesBack (getRunner "shell")
        (updateRunner ⟨"alice", "local"⟩) := by
  have hback : ∀ schema ∈ SessionEvent.schemas furnished, schema.ReadsBack := by
    intro schema hmem
    obtain rfl : schema = .obj [("type", .str "object")] := List.mem_singleton.mp hmem
    exact .of_read? (by decide +kernel)
  exact ⟨by decide +kernel, (write_back .standard hback ⟨"alice", "local"⟩ "hello").1,
    by decide +kernel, (write_back .standard hback ⟨"alice", "local"⟩ "shell").2⟩

/-! ## Reading what was written -/

/-- The secret of a task after it was written. -/
def taskSecret (w : World) (t : Task) (mode : WriteMode) : Option Record :=
  match t.secret, mode with
  | some desired, _ =>
    Secret.kept (Secret.merge ((w.secrets.records.get? t.name).getD ∅) desired)
  | none, .update => none
  | none, .create => w.secrets.records.get? t.name

/-- The secret of a runner after it was written. -/
def runnerSecret (w : World) (r : Runner) : Option Record :=
  match r.token with
  | some token =>
    Secret.kept (Secret.merge ((w.secrets.records.get? r.name).getD ∅)
      (Dict.ofList [(Runner.tokenKey, token)]))
  | none => w.secrets.records.get? r.name

/-- The merged secret of a task is what is stored. -/
theorem get?_secrets_withTask {t : Task} (hkeys : w.secrets.records.get? t.name ≠ some ∅)
    (mode : WriteMode) :
    (w.withTask t mode).secrets.records.get? t.name = w.taskSecret t mode := by
  cases hsecret : t.secret with
  | some desired =>
    simp only [withTask, taskSecret, hsecret]
    exact RecordStore.get?_mergeSecret hkeys desired
  | none =>
    cases mode with
    | create => simp only [withTask, taskSecret, hsecret]
    | update =>
      simp only [withTask, taskSecret, hsecret]
      exact RecordStore.get?_removeSecret

/-- The merged secret of a runner is what is stored. -/
theorem get?_secrets_withRunner {r : Runner} (hkeys : w.secrets.records.get? r.name ≠ some ∅) :
    (w.withRunner r).secrets.records.get? r.name = w.runnerSecret r := by
  cases htoken : r.token with
  | some token =>
    simp only [withRunner, runnerSecret, htoken]
    exact RecordStore.get?_mergeSecret hkeys _
  | none => simp only [withRunner, runnerSecret, htoken]

/-- A task was written, and is shown from then on. -/
structure TaskWritten (w : World) (t : Task) (mode : WriteMode) (reply : Task) (v : World) :
    Prop where
  /-- What is shown is the task, with the values of its secret hidden. -/
  shown : reply = { t with secret := (w.taskSecret t mode).map Secret.redact }
  stored : v.secrets.records.get? t.name = w.taskSecret t mode
  read : (v.run (getTask t.name)).1 = .ok reply

/-- A runner was written, and is shown from then on. -/
structure RunnerWritten (w : World) (r : Runner) (reply : Runner) (v : World) : Prop where
  /-- What is shown is the runner with the branch that is cloned, and a stand-in exactly for a token
  that is stored. -/
  shown : reply = { r with
    branch := r.effectiveBranch
    token := if (w.runnerSecret r).any (·.contains Runner.tokenKey) then some Secret.standIn
      else none }
  stored : v.secrets.records.get? r.name = w.runnerSecret r
  read : (v.run (getRunner r.name)).1 = .ok reply

/-- A schema was written, and nothing else of the task. -/
structure SchemaWritten (w : World) (name : String) (schema : Json) (v : World) : Prop where
  read : (v.run (getSchema name)).1 = .ok (some schema)
  rest : ∃ t, (w.run (getTask name)).1 = .ok t ∧
    (v.run (getTask name)).1 = .ok { t with schema := some schema }
  secrets : v.secrets = w.secrets

/-- A task that is accepted is valid. -/
theorem validate_of_acceptTask {t : Task} {mode : WriteMode} (h : w.acceptTask t mode = .ok ()) :
    t.validate = .ok () := by
  have hadmits : w.admitTask t mode = .ok () := by
    cases mode with
    | create => exact h
    | update =>
      obtain ⟨old, -, hadmits⟩ := Outcome.bind_eq_ok.mp h
      exact hadmits
  obtain ⟨⟨⟩, hvalid, -⟩ := Outcome.bind_eq_ok.mp hadmits
  exact hvalid

/-- A runner that is accepted is valid. -/
theorem validate_of_acceptRunner {r : Runner} {mode : WriteMode}
    (h : w.acceptRunner r mode = .ok ()) : r.validate = .ok () := by
  have hadmits : w.admitRunner r mode = .ok () := by
    cases mode with
    | create => exact h
    | update =>
      obtain ⟨old, -, hadmits⟩ := Outcome.bind_eq_ok.mp h
      exact hadmits
  obtain ⟨⟨⟩, hvalid, -⟩ := Outcome.bind_eq_ok.mp hadmits
  exact hvalid

theorem taskWritten_of_ok (h : w.StoresHold) (principal : Principal) {t : Task} {mode : WriteMode}
    (hkeys : w.secrets.records.get? t.name ≠ some ∅)
    (hback : ∀ schema, t.schema = some schema → schema.ReadsBack) {reply : Task}
    (hok : (w.run (putTask principal t mode)).1 = .ok reply) :
    w.TaskWritten t mode reply (w.run (putTask principal t mode)).2 := by
  obtain ⟨audit, hrun⟩ := run_putTask h principal t mode
  cases haccepts : w.acceptTask t mode with
  | error e =>
    rw [hrun, haccepts] at hok
    cases hok
  | ok u =>
    rw [haccepts] at hrun
    rw [hrun] at hok ⊢
    have hholds : { w.withTask t mode with audit }.StoresHold := ⟨h.catalog, h.secrets⟩
    have hload : { w.withTask t mode with audit }.taskNamed t.name = Task.ofRecord t.name t.toRecord :=
      taskNamed_withTask (validate_of_acceptTask haccepts) mode
    refine ⟨?_, get?_secrets_withTask hkeys mode, ?_⟩
    · obtain ⟨read, hread, rfl⟩ := Outcome.map_eq_ok.mp hok
      rw [Task.ofRecord_toRecord_eq_ok hback hread, shownTask, get?_secrets_withTask hkeys mode]
    · rw [run_getTask hholds, hload]
      exact hok

theorem runnerWritten_of_ok (h : w.StoresHold) (principal : Principal) {r : Runner}
    {mode : WriteMode} (hkeys : w.secrets.records.get? r.name ≠ some ∅) {reply : Runner}
    (hok : (w.run (putRunner principal r mode)).1 = .ok reply) :
    w.RunnerWritten r reply (w.run (putRunner principal r mode)).2 := by
  obtain ⟨audit, hrun⟩ := run_putRunner h principal r mode
  cases haccepts : w.acceptRunner r mode with
  | error e =>
    rw [hrun, haccepts] at hok
    cases hok
  | ok u =>
    rw [haccepts] at hrun
    rw [hrun] at hok ⊢
    have hholds : { w.withRunner r with audit }.StoresHold := ⟨h.catalog, h.secrets⟩
    have hload : { w.withRunner r with audit }.runnerNamed r.name =
        .ok (Runner.ofRecord r.name r.toRecord) :=
      runnerNamed_withRunner (validate_of_acceptRunner haccepts)
    refine ⟨?_, get?_secrets_withRunner hkeys, ?_⟩
    · rw [← Except.ok.inj hok, Runner.ofRecord_toRecord, shownRunner, get?_secrets_withRunner hkeys]
      split <;> rfl
    · rw [run_getRunner hholds, hload]
      exact hok

theorem schemaWritten_of_ok (h : w.StoresHold) (principal : Principal) {name : String}
    {schema : Json} (hread : Json.read? schema.compact = some schema) {reply : Json}
    (hok : (w.run (updateSchema principal name schema)).1 = .ok reply) :
    reply = schema ∧
      w.SchemaWritten name schema (w.run (updateSchema principal name schema)).2 := by
  obtain ⟨audit, hrun⟩ := run_updateSchema h principal name schema
  cases hfound : Schema.check schema >>= fun _ => w.taskNamed name with
  | error e =>
    rw [hrun, hfound] at hok
    cases hok
  | ok t =>
    rw [hfound] at hrun
    rw [hrun] at hok ⊢
    obtain ⟨⟨⟩, -, hload⟩ := Outcome.bind_eq_ok.mp hfound
    obtain ⟨record, -, htask, hrecord⟩ := taskNamed_eq_ok hload
    obtain ⟨rfl, hrunner, -, hsecret⟩ := Task.ofRecord_fields hrecord
    let written : Task := { t with schema := some schema }
    let v : World := { w with catalog := w.catalog.written t.name written.toRecord, audit }
    have hholds : v.StoresHold := ⟨h.catalog, h.secrets⟩
    have hafter : v.taskNamed t.name = .ok written := by
      have hstored : v.catalog.records.get? t.name = some written.toRecord := by
        simp [v, RecordStore.written]
      have hkind : Task.isRecord written.toRecord = true := by
        rw [Task.isRecord_iff, Task.field_runner_toRecord]
        exact hrunner ▸ Task.isRecord_iff.mp htask
      rw [taskNamed, hstored]
      refine (if_pos hkind).trans ((Task.ofRecord_toRecord written).trans ?_)
      simp only [Task.reread?, written, hread, Option.map_some, hsecret]
    refine ⟨(Except.ok.inj hok).symm, ?_, ⟨w.shownTask t, ?_, ?_⟩, rfl⟩
    · rw [getSchema, run_bind, run_loadTask hholds, hafter]
      rfl
    · rw [run_getTask h, hload]
      rfl
    · rw [run_getTask hholds, hafter]
      rfl

/-- All along a session, what a write shows is what it was given, up to the hidden values of the
secret that comes of the merge, and is read from then on. -/
theorem write_read (config : EngineConfig) (events : List SessionEvent) {w : World}
    (hw : w = World.after config {} events) (principal : Principal) :
    (∀ (t : Task) (mode : WriteMode) (reply : Task),
      (∀ schema, t.schema = some schema → schema.ReadsBack) →
      (w.run (putTask principal t mode)).1 = .ok reply →
      w.TaskWritten t mode reply (w.run (putTask principal t mode)).2) ∧
    (∀ (r : Runner) (mode : WriteMode) (reply : Runner),
      (w.run (putRunner principal r mode)).1 = .ok reply →
      w.RunnerWritten r reply (w.run (putRunner principal r mode)).2) ∧
    ∀ (name : String) (schema reply : Json),
      schema.Fits → schema.depth ≤ Json.maxDepth → schema.ReadsBack →
      (w.run (updateSchema principal name schema)).1 = .ok reply →
      reply = schema ∧
        w.SchemaWritten name schema (w.run (updateSchema principal name schema)).2 := by
  subst hw
  have hholds := storesHold_after config events
  have hkeys : ∀ name, (World.after config {} events).secrets.records.get? name ≠ some ∅ :=
    fun name hempty => (carry_after config events).secret name ∅ hempty rfl
  refine ⟨fun t mode reply hback hok => ?_, fun r mode reply hok => ?_,
    fun name schema reply hfits hdepth hback hok => ?_⟩
  · exact taskWritten_of_ok hholds principal (hkeys t.name) hback hok
  · exact runnerWritten_of_ok hholds principal (hkeys r.name) hok
  · have hread := Json.read?_compact hfits hdepth
    have hagain := hback schema.reread hread
    rw [hagain] at hread
    exact schemaWritten_of_ok hholds principal hread hok

/-- A task with a schema and a secret. -/
def parting : Task where
  name := "bye"
  runner := "shell"
  command := "echo bye"
  synchronous := true
  schema := some (.obj [])
  secret := some (Dict.ofList [("password", "open")])

/-- A task is created, a runner is replaced with its token kept, a schema is exchanged, and each is
shown from then on. -/
theorem write_read_furnished :
    (∃ reply, ((World.after .standard {} furnished).run
        (putTask ⟨"alice", "local"⟩ parting .create)).1 = .ok reply ∧
      (World.after .standard {} furnished).TaskWritten parting .create reply
        ((World.after .standard {} furnished).run
          (putTask ⟨"alice", "local"⟩ parting .create)).2) ∧
    (∃ reply, ((World.after .standard {} furnished).run
        (putRunner ⟨"alice", "local"⟩ ⟨"shell", "busybox", "https://example.org/greetings.git", "",
          some Secret.standIn⟩ .update)).1 = .ok reply ∧
      (World.after .standard {} furnished).RunnerWritten
        ⟨"shell", "busybox", "https://example.org/greetings.git", "", some Secret.standIn⟩ reply
        ((World.after .standard {} furnished).run
          (putRunner ⟨"alice", "local"⟩ ⟨"shell", "busybox", "https://example.org/greetings.git", "",
            some Secret.standIn⟩ .update)).2) ∧
    ∃ reply, ((World.after .standard {} furnished).run
        (updateSchema ⟨"alice", "local"⟩ "hello" (.bool true))).1 = .ok reply ∧
      reply = .bool true ∧
      (World.after .standard {} furnished).SchemaWritten "hello" (.bool true)
        ((World.after .standard {} furnished).run
          (updateSchema ⟨"alice", "local"⟩ "hello" (.bool true))).2 := by
  have hall := write_read .standard furnished rfl ⟨"alice", "local"⟩
  obtain ⟨task, htask⟩ := Outcome.isOk_iff.mp (show ((World.after .standard {} furnished).run
    (putTask ⟨"alice", "local"⟩ parting .create)).1.isOk = true by decide +kernel)
  obtain ⟨runner, hrunner⟩ := Outcome.isOk_iff.mp (show ((World.after .standard {} furnished).run
    (putRunner ⟨"alice", "local"⟩ ⟨"shell", "busybox", "https://example.org/greetings.git", "",
      some Secret.standIn⟩ .update)).1.isOk = true by decide +kernel)
  obtain ⟨schema, hschema⟩ := Outcome.isOk_iff.mp (show ((World.after .standard {} furnished).run
    (updateSchema ⟨"alice", "local"⟩ "hello" (.bool true))).1.isOk = true by decide +kernel)
  refine ⟨⟨task, htask, hall.1 _ _ task (fun schema hs => ?_) htask⟩,
    ⟨runner, hrunner, hall.2.1 _ _ runner hrunner⟩,
    ⟨schema, hschema, hall.2.2 _ _ schema (by simp [Json.Fits]) (by decide) ?_ hschema⟩⟩
  · cases hs
    exact .of_read? (by decide +kernel)
  · exact .of_read? (by decide +kernel)

end World

end TaskEngine
