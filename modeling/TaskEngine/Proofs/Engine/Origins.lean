import TaskEngine.Proofs.Engine.Steps

/-!
# Where stored texts come from

No call writes a record with another schema than the one that is submitted with it and has passed
the check, and none writes a secret without keys. That is settled along the requests of each
procedure, whatever the replies are. So the schema of a stored task was submitted in the session and
is in order, and a stored secret has keys.
-/

namespace TaskEngine

open Engine

/-! ## What is written -/

/-- Whether the schema text of a record, if it is filled in, is that of a value with a property. -/
def Record.Carries (P : Json → Prop) (record : Record) : Prop :=
  ∀ text, record.filled? "schema" = some text → ∃ schema, text = schema.compact ∧ P schema

/-- The record of a runner has no schema. -/
theorem Runner.carries_toRecord (P : Json → Prop) (r : Runner) : r.toRecord.Carries P := by
  intro text htext
  simp [Runner.toRecord, Record.filled?, Dict.ofList, Dict.insertAll] at htext

/-- The record of a task has the schema of the task. -/
theorem Task.carries_toRecord {P : Json → Prop} {t : Task}
    (h : ∀ schema, t.schema = some schema → P schema) : t.toRecord.Carries P := by
  intro text htext
  obtain ⟨hstored, hfilled⟩ := Record.filled?_eq_some_iff.mp htext
  have hschema : (t.schema.map Json.compact).getD "" = text := by
    simpa [Task.toRecord, Dict.ofList, Dict.insertAll] using hstored
  cases htask : t.schema with
  | none =>
    rw [htask] at hschema
    exact absurd hschema.symm hfilled
  | some schema =>
    rw [htask] at hschema
    exact ⟨schema, hschema.symm, h schema htask⟩

/-- Whether a request writes only records whose schemas have a property, and only secrets with
keys. -/
def Request.Writes (P : Json → Prop) : Request → Prop
  | .catalog (.put _ written _) => written.Carries P
  | .secrets (.put _ written _) => written ≠ ∅
  | _ => True

/-- Whether a procedure writes only such records and secrets. -/
abbrev Procedure.Writes {α : Type} (P : Json → Prop) (p : Procedure α) : Prop :=
  Dialogue.OnlyAsks (Request.Writes P) p

variable {P : Json → Prop} {α : Type}

/-- A request that only looks writes nothing. -/
theorem Request.OnlyLooks.writes {r : Request} (h : r.OnlyLooks) : r.Writes P := by
  cases r with
  | catalog call =>
    cases call with
    | put name record mode => exact h.elim
    | _ => trivial
  | secrets call =>
    cases call with
    | put name secret mode => exact h.elim
    | _ => trivial
  | _ => trivial

/-- A procedure that only looks writes nothing. -/
theorem Procedure.OnlyLooks.writes {p : Procedure α} (h : p.OnlyLooks) : p.Writes P :=
  Dialogue.OnlyAsks.mono (fun _ => Request.OnlyLooks.writes) h

/-- A property of all schemas that are written may be weakened. -/
theorem Procedure.Writes.mono {Q : Json → Prop} (hPQ : ∀ schema, P schema → Q schema)
    {p : Procedure α} (h : p.Writes P) : p.Writes Q := by
  refine Dialogue.OnlyAsks.mono (fun r hr => ?_) h
  cases r with
  | catalog call =>
    cases call with
    | put name record mode =>
      intro text htext
      obtain ⟨schema, hschema, hP⟩ := hr text htext
      exact ⟨schema, hschema, hPQ schema hP⟩
    | _ => trivial
  | secrets call =>
    cases call with
    | put name secret mode => exact hr
    | _ => trivial
  | _ => trivial

/-- The entry of an audited procedure is no write. -/
theorem Procedure.Writes.audited {p : Procedure α} (h : p.Writes P) (principal : Principal)
    (action : AuditAction) (category : ResourceKind) (target : String) :
    (Procedure.audited principal action category target p).Writes P :=
  Dialogue.OnlyAsks.followedBy h fun _ => ⟨trivial, fun _ => trivial⟩

namespace Engine

/-! ## Procedures -/

theorem writes_put (name : String) {record : Record} (mode : WriteMode) (h : record.Carries P) :
    (Procedure.catalog (.put name record mode)).Writes P := ⟨h, fun _ => trivial⟩

theorem writes_delete (name : String) : (Procedure.catalog (.delete name)).Writes P :=
  ⟨trivial, fun _ => trivial⟩

theorem writes_deleteSecret (name : String) : (Procedure.secrets (.delete name)).Writes P :=
  ⟨trivial, fun _ => trivial⟩

theorem writes_workloads (call : WorkloadCall) : (Procedure.workloads call).Writes P :=
  ⟨trivial, fun _ => trivial⟩

/-- A merge writes a secret only if a key is left. -/
theorem writes_applySecret (name : String) (desired : Record) :
    (applySecret name desired).Writes P := by
  have hput : ∀ (merged : Record) (mode : WriteMode), merged.isEmpty ≠ true →
      (Procedure.secrets (.put name merged mode)).Writes P :=
    fun merged mode hkeys => ⟨fun he => hkeys (Dict.isEmpty_iff.mpr he), fun _ => trivial⟩
  refine (onlyLooks_secrets (.get name) trivial).writes.bind fun current => ?_
  cases current with
  | none =>
    simp only
    split
    · trivial
    · rename_i hkeys
      exact (hput _ .create hkeys).bind fun _ => trivial
  | some stored =>
    simp only
    split
    · trivial
    · split
      · exact (writes_deleteSecret name).bind fun _ => trivial
      · rename_i hkeys
        exact (hput _ .update hkeys).bind fun _ => trivial

theorem writes_writeRunner (r : Runner) (mode : WriteMode) : (writeRunner r mode).Writes P := by
  rw [writeRunner]
  refine .lift_bind fun _ _ => ?_
  refine (writes_put r.name mode (r.carries_toRecord P)).bind fun _ => ?_
  cases r.token with
  | none => exact (onlyLooks_getRunner r.name).writes
  | some token =>
    exact (writes_applySecret r.name _).bind fun _ => (onlyLooks_getRunner r.name).writes

theorem writes_storeSecret (t : Task) (mode : WriteMode) : (World.storeSecret t mode).Writes P := by
  unfold World.storeSecret
  cases t.secret with
  | some desired => exact (writes_applySecret t.name desired).bind fun _ => trivial
  | none =>
    cases mode with
    | create => trivial
    | update => exact writes_deleteSecret t.name

theorem writes_writeTask {t : Task} (mode : WriteMode)
    (h : ∀ schema, t.schema = some schema → Schema.check schema = .ok () → P schema) :
    (writeTask t mode).Writes P := by
  rw [World.writeTask_eq]
  refine .lift_bind fun _ _ => .lift_bind fun _ hchecked => ?_
  have hcarries : t.toRecord.Carries P := Task.carries_toRecord fun schema hschema =>
    h schema hschema (by simpa only [World.checkedSchema, hschema] using hchecked)
  refine (onlyLooks_loadRunner t.runner).writes.bind fun _ => ?_
  refine (writes_put t.name mode hcarries).bind fun _ => ?_
  exact (writes_storeSecret t mode).bind fun _ => (onlyLooks_getTask t.name).writes

theorem writes_deleteRunner (principal : Principal) (name : String) :
    (deleteRunner principal name).Writes P := by
  refine Procedure.Writes.audited ?_ ..
  refine (onlyLooks_loadRunner name).writes.bind fun _ => ?_
  refine (onlyLooks_catalog .list trivial).writes.bind fun records => ?_
  cases dependentTask? records name with
  | some task => trivial
  | none => exact (writes_delete name).bind fun _ => writes_deleteSecret name

theorem writes_deleteTask (principal : Principal) (name : String) :
    (deleteTask principal name).Writes P := by
  refine Procedure.Writes.audited ?_ ..
  refine (onlyLooks_loadTask name).writes.bind fun _ => ?_
  refine (writes_workloads _).bind fun cronJobs => ?_
  cases cronJobs with
  | cons c rest => trivial
  | nil =>
    refine (writes_workloads _).bind fun deployments => ?_
    cases deployments with
    | cons d rest => trivial
    | nil => exact (writes_delete name).bind fun _ => writes_deleteSecret name

theorem writes_updateSchema (principal : Principal) (name : String) {schema : Json}
    (h : Schema.check schema = .ok () → P schema) :
    (updateSchema principal name schema).Writes P := by
  refine Procedure.Writes.audited (.lift_bind fun _ hchecked => ?_) ..
  refine (onlyLooks_loadTask name).writes.bind fun t => ?_
  refine (writes_put name .update (Task.carries_toRecord fun other hother => ?_)).bind
    fun _ => trivial
  cases hother
  exact h hchecked

theorem writes_deleteSchema (principal : Principal) (name : String) :
    (deleteSchema principal name).Writes P := by
  refine Procedure.Writes.audited ?_ ..
  refine (onlyLooks_loadTask name).writes.bind fun t => ?_
  split
  · exact (writes_put name .update (Task.carries_toRecord fun other hother => by cases hother)).bind
      fun _ => trivial
  · trivial

theorem writes_changeSecret (principal : Principal) (action : AuditAction) (name : String)
    {change : Procedure α} (h : change.Writes P) :
    (changeSecret principal action name change).Writes P :=
  (onlyLooks_ownerKind name).writes.attempt.bind fun _ =>
    Procedure.Writes.audited (.lift_bind fun _ _ => h) ..

theorem writes_updateSecret (principal : Principal) (name : String) (desired : Record) :
    (updateSecret principal name desired).Writes P :=
  writes_changeSecret principal .update name <|
    (writes_applySecret name desired).bind fun _ =>
      (onlyLooks_redactedSecret name).writes.bind fun _ => trivial

/-- Preparing a launch only looks. -/
theorem onlyLooks_prepare (taskName : String) (vars : Option String) :
    (prepare taskName vars).OnlyLooks := by
  refine (onlyLooks_loadTask taskName).bind fun task => ?_
  refine (onlyLooks_loadRunner task.runner).bind fun runner => ?_
  simp only
  split
  · exact (onlyLooks_count _).bind fun _ => trivial
  · exact (onlyLooks_secrets (.get runner.name) trivial).bind fun _ => trivial

theorem writes_launch (config : EngineConfig) (taskName owner : String) (vars : Option String) :
    (launch config taskName owner vars).Writes P :=
  (onlyLooks_prepare taskName vars).writes.bind fun ready => (writes_workloads _).bind fun created =>
    (World.onlyLooks_afterLaunch config ready owner created).writes

theorem writes_applyCronJob (config : EngineConfig) (c : CronJob) (mode : WriteMode) :
    (applyCronJob config c mode).Writes P :=
  .lift_bind fun _ _ => (onlyLooks_prepare _ _).writes.bind fun _ =>
    (writes_workloads _).bind fun _ => (onlyLooks_count _).writes.bind fun _ => trivial

theorem writes_applyDeployment (config : EngineConfig) (d : Deployment) (mode : WriteMode) :
    (applyDeployment config d mode).Writes P :=
  .lift_bind fun _ _ => (onlyLooks_prepare _ _).writes.bind fun _ =>
    (writes_workloads _).bind fun _ => (onlyLooks_count _).writes.bind fun _ => trivial

end Engine

/-! ## Calls and sessions -/

/-- Whether a schema is submitted with a call and is in order. -/
def ServiceCall.Introduces (call : ServiceCall) (schema : Json) : Prop :=
  call.schema? = some schema ∧ Schema.check schema = .ok ()

/-- A call writes no schema but the one that it introduces. -/
theorem writes_call (config : EngineConfig) (call : ServiceCall) :
    (call.procedure config).Writes call.Introduces := by
  cases call with
  | createRunner principal r => exact ((writes_writeRunner r .create).audited ..).map _
  | updateRunner principal r =>
    exact (Procedure.Writes.audited ((onlyLooks_loadRunner r.name).writes.bind fun _ =>
      writes_writeRunner r .update) ..).map _
  | deleteRunner principal name => exact (writes_deleteRunner principal name).map _
  | createTask principal t =>
    exact (Procedure.Writes.audited (writes_writeTask .create fun _ hs hc => ⟨hs, hc⟩) ..).map _
  | updateTask principal t =>
    exact (Procedure.Writes.audited ((onlyLooks_loadTask t.name).writes.bind fun _ =>
      writes_writeTask .update fun _ hs hc => ⟨hs, hc⟩) ..).map _
  | deleteTask principal name => exact (writes_deleteTask principal name).map _
  | updateSchema principal name schema =>
    exact (writes_updateSchema principal name fun hc => ⟨rfl, hc⟩).map _
  | deleteSchema principal name => exact (writes_deleteSchema principal name).map _
  | updateSecret principal name desired =>
    exact (writes_updateSecret principal name desired).map _
  | deleteSecret principal name =>
    exact (writes_changeSecret principal .delete name (writes_deleteSecret name)).map _
  | createJob principal taskName vars =>
    exact ((writes_launch config taskName principal.name vars).audited ..).map _
  | deleteJob principal id => exact ((writes_workloads (.deleteJob id)).audited ..).map _
  | createCronJob principal c =>
    exact ((writes_applyCronJob config { c with owner := principal.name } .create).audited ..).map _
  | updateCronJob principal c =>
    exact ((writes_applyCronJob config { c with owner := principal.name } .update).audited ..).map _
  | deleteCronJob principal name =>
    exact ((writes_workloads (.deleteCronJob name)).audited ..).map _
  | createDeployment principal d =>
    exact ((writes_applyDeployment config { d with owner := principal.name } .create).audited
      ..).map _
  | updateDeployment principal d =>
    exact ((writes_applyDeployment config { d with owner := principal.name } .update).audited
      ..).map _
  | deleteDeployment principal name =>
    exact ((writes_workloads (.deleteDeployment name)).audited ..).map _
  | _ => exact Procedure.OnlyLooks.writes (World.onlyLooks_call config rfl (by simp))

/-- The schemas that are submitted in a session. -/
def SessionEvent.schemas (events : List SessionEvent) : List Json :=
  events.filterMap fun
    | .call made => made.schema?
    | _ => none

/-- Whether a schema was submitted in a session and is in order. -/
def SessionEvent.Introduced (events : List SessionEvent) (schema : Json) : Prop :=
  schema ∈ schemas events ∧ Schema.check schema = .ok ()

/-- What is introduced by a call is introduced in its session. -/
theorem SessionEvent.introduced_of_mem {events : List SessionEvent} {call : ServiceCall}
    (hmem : SessionEvent.call call ∈ events) {schema : Json} (h : call.Introduces schema) :
    Introduced events schema :=
  ⟨List.mem_filterMap.mpr ⟨.call call, hmem, h.1⟩, h.2⟩

/-- The schemas of stored records have a property, and stored secrets have keys. -/
structure Stores.Carry (s : Stores) (P : Json → Prop) : Prop where
  record : ∀ name record, s.catalog.records.get? name = some record → record.Carries P
  secret : ∀ name secret, s.secrets.records.get? name = some secret → secret ≠ ∅

namespace World

variable {w : World}

/-- What is written under a name satisfies what everything else does. -/
theorem forall_get?_put {Q : Record → Prop} {s t : RecordStore} {resource name : String}
    {record : Record} {mode : WriteMode} (hput : s.put resource name record mode = .ok t)
    (hrecord : Q record) (h : ∀ other stored, s.records.get? other = some stored → Q stored)
    (other : String) (stored : Record) (hget : t.records.get? other = some stored) : Q stored := by
  rw [RecordStore.put_eq] at hput
  obtain ⟨u, -, rfl⟩ := Outcome.map_eq_ok.mp hput
  exact Dict.forall_insert hrecord h other stored hget

/-- A request that writes only such records and secrets keeps to them. -/
theorem carry_answer {r : Request} (hr : r.Writes P) (h : w.stores.Carry P) :
    (answer r w).2.stores.Carry P := by
  cases r with
  | record entry => exact h
  | count metric => exact h
  | clock => exact h
  | sleepUntil due => exact h
  | workloads call =>
    simp only [answer, guarded]
    split <;> exact ⟨h.record, h.secret⟩
  | catalog call =>
    simp only [answer, guarded]
    split
    · exact h
    refine ⟨?_, h.secret⟩
    cases call with
    | get name => exact h.record
    | list => exact h.record
    | put name record mode =>
      simp only [RecordStore.answerCatalog, stores]
      cases hput : w.catalog.put CatalogCall.resource name record mode with
      | error e => exact h.record
      | ok t => exact forall_get?_put hput hr h.record
    | delete name =>
      simp only [RecordStore.answerCatalog, stores]
      split
      · exact fun other record hget => h.record other record (Dict.get?_of_erase hget)
      · exact h.record
  | secrets call =>
    simp only [answer, guarded]
    split
    · exact h
    refine ⟨h.record, ?_⟩
    cases call with
    | get name => exact h.secret
    | put name secret mode =>
      simp only [RecordStore.answerSecrets, stores]
      cases hput : w.secrets.put SecretCall.resource name secret mode with
      | error e => exact h.secret
      | ok t => exact forall_get?_put hput hr h.secret
    | delete name =>
      simp only [RecordStore.answerSecrets, stores]
      split
      · exact fun other secret hget => h.secret other secret (Dict.get?_of_erase hget)
      · exact h.secret

/-- A procedure that writes only such records and secrets keeps to them. -/
theorem carry_run {p : Procedure α} (hp : p.Writes P) (h : w.stores.Carry P) :
    (w.run p).2.stores.Carry P :=
  Dialogue.OnlyAsks.run (R := fun w v => w.stores.Carry P → v.stores.Carry P) (fun _ hw => hw)
    (fun hst htu hs => htu (hst hs)) (fun _ _ hr hw => carry_answer hr hw) hp w h

/-- What holds of a world and is kept by every event of a session holds after the session. -/
theorem after_of_mem {config : EngineConfig} {Q : World → Prop} {events : List SessionEvent}
    (hstep : ∀ w, ∀ event ∈ events, Q w → Q (w.step config event).2) (hw : Q w) :
    Q (w.after config events) := by
  induction events generalizing w with
  | nil => exact hw
  | cons event events ih =>
    exact ih (fun v later hmem => hstep v later (List.mem_cons_of_mem _ hmem))
      (hstep w event List.mem_cons_self hw)

/-- All along a session, the schemas of stored records were introduced in it, and stored secrets have
keys. -/
theorem carry_after (config : EngineConfig) (events : List SessionEvent) :
    (World.after config {} events).stores.Carry (SessionEvent.Introduced events) := by
  refine after_of_mem (Q := fun w => w.stores.Carry (SessionEvent.Introduced events))
    (fun w event hmem h => ?_) ⟨by simp [stores], by simp [stores]⟩
  cases event with
  | call call =>
    exact carry_run ((writes_call config call).mono
      fun schema hs => SessionEvent.introduced_of_mem hmem hs) h
  | _ => exact ⟨h.record, h.secret⟩

end World

end TaskEngine
