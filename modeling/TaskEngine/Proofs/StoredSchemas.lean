import TaskEngine.Proofs.Engine.Definitions
import TaskEngine.Proofs.Json.Depth
import TaskEngine.Proofs.Locality

/-!
# Schemas of stored tasks

A schema is checked as a value, but stored as text and read back whenever its task is loaded. So it
depends on its text what becomes of the task: a schema that nests deeper than the reader goes leaves
a task that no longer loads, and one whose numbers are rounded when they are read may come back as no
schema at all. Every other schema that was accepted leaves a usable task: no call that uses the task
fails because of its schema.
-/

namespace TaskEngine

open Engine

/-! ## Errors about schemas -/

/-- Whether an error is about a schema: a stored one does not read, or is no schema. -/
def EngineError.BlamesSchema (e : EngineError) : Prop :=
  e = Schema.invalidSchema ∨ ∃ message, e = .serialization message

namespace EngineError

@[simp] theorem not_blamesSchema_notFound (resource name : String) :
    ¬ (notFound resource name).BlamesSchema := by
  simp [BlamesSchema, Schema.invalidSchema]

@[simp] theorem not_blamesSchema_conflict (resource name : String) :
    ¬ (conflict resource name).BlamesSchema := by
  simp [BlamesSchema, Schema.invalidSchema]

@[simp] theorem not_blamesSchema_dependency (resource kind name : String) :
    ¬ (dependency resource kind name).BlamesSchema := by
  simp [BlamesSchema, Schema.invalidSchema]

@[simp] theorem not_blamesSchema_infrastructure (message : String) (caused : Bool) :
    ¬ (infrastructure message caused).BlamesSchema := by
  simp [BlamesSchema, Schema.invalidSchema]

@[simp] theorem not_blamesSchema_input (error : InputError) : ¬ (input error).BlamesSchema := by
  simp [BlamesSchema, Schema.invalidSchema]

/-- A malformed definition or input is another matter than a schema. -/
theorem not_blamesSchema_validation {message : String} {details : List String}
    (h : message ≠ "invalid schema") : ¬ (validation message details).BlamesSchema := by
  simp [BlamesSchema, Schema.invalidSchema, h]

@[simp] theorem not_blamesSchema_malformed (message : String) :
    ¬ (malformed message).BlamesSchema := by
  simp [BlamesSchema, Schema.invalidSchema, malformed]

end EngineError

namespace Outcome

variable {α β : Type}

/-- Whether an outcome is no failure because of a schema. -/
structure SparesSchema (x : Outcome α) : Prop where
  blameless : ∀ e, x = .error e → ¬ e.BlamesSchema

theorem SparesSchema.ok (a : α) : SparesSchema (.ok a) where
  blameless := by
    intro e he
    cases he

theorem SparesSchema.error {e : EngineError} (h : ¬ e.BlamesSchema) :
    SparesSchema (.error e : Outcome α) where
  blameless := by
    intro other hother
    cases hother
    exact h

theorem SparesSchema.bind {x : Outcome α} {next : α → Outcome β} (hx : SparesSchema x)
    (hnext : ∀ a, x = .ok a → SparesSchema (next a)) : SparesSchema (x >>= next) := by
  cases x with
  | error e => exact .error (hx.blameless e rfl)
  | ok a => exact hnext a rfl

theorem SparesSchema.map {x : Outcome α} (h : SparesSchema x) (f : α → β) :
    SparesSchema (x.map f) := by
  cases x with
  | error e => exact .error (h.blameless e rfl)
  | ok a => exact .ok (f a)

end Outcome

open Outcome

namespace Schema

/-- A schema passes the check exactly if its dialect is found. -/
theorem check_eq_ok_iff {schema : Json} :
    check schema = .ok () ↔ ∃ d, dialect? (normalize schema) = some d := by
  rw [check, ← Option.isSome_iff_exists]
  split <;> simp_all

theorem sparesSchema_parseInput (raw : String) : SparesSchema (parseInput raw) := by
  rw [parseInput]
  split
  · exact .ok _
  · split
    · exact .ok _
    · exact .error (EngineError.not_blamesSchema_validation (by decide))

/-- Input is not refused because of a schema that passes the check. -/
theorem sparesSchema_judge {schema : Option Json}
    (h : ∀ s, schema = some s → check s = .ok ()) (input : Option String) :
    SparesSchema (judge schema input) := by
  cases schema with
  | none =>
    cases input with
    | none => exact .ok ()
    | some raw => exact (sparesSchema_parseInput raw).map _
  | some schema =>
    obtain ⟨d, hdialect⟩ := check_eq_ok_iff.mp (h schema rfl)
    simp only [judge, validate, hdialect]
    refine (sparesSchema_parseInput _).bind fun value _ => ?_
    split
    · exact .ok ()
    · exact .error (EngineError.not_blamesSchema_validation (by decide))

/-- No input is judged by what is no schema. -/
theorem judge_of_check_ne_ok {schema : Json} (h : check schema ≠ .ok ()) (input : Option String) :
    judge (some schema) input = .error invalidSchema := by
  cases hdialect : dialect? (normalize schema) with
  | none => simp only [judge, validate, hdialect]
  | some d => exact absurd (check_eq_ok_iff.mpr ⟨d, hdialect⟩) h

end Schema

/-! ## Definitions -/

theorem Name.sparesSchema_demand (text : String) : SparesSchema (Name.demand text) := by
  rw [Name.demand]
  split
  · exact .ok ()
  · exact .error (EngineError.not_blamesSchema_input _)

theorem Task.sparesSchema_validate (t : Task) : SparesSchema t.validate := by
  refine (Name.sparesSchema_demand t.name).bind fun _ _ => ?_
  split
  · exact .ok ()
  · refine .error (EngineError.not_blamesSchema_validation fun h => ?_)
    have hninth := congrArg (fun text => text.toList[8]?) h
    simp at hninth

theorem Schedule.sparesSchema_validate (text : String) : SparesSchema (Schedule.validate text) := by
  simp only [Schedule.validate]
  repeat' split
  all_goals first
    | exact .ok ()
    | exact .error (EngineError.not_blamesSchema_malformed _)
    | exact .error (EngineError.not_blamesSchema_validation (by decide))

theorem CronJob.sparesSchema_validate (c : CronJob) : SparesSchema c.validate := by
  refine (Name.sparesSchema_demand c.name).bind fun _ _ => ?_
  split
  · exact .error (EngineError.not_blamesSchema_malformed _)
  · exact Schedule.sparesSchema_validate c.schedule

theorem Deployment.sparesSchema_validate (d : Deployment) : SparesSchema d.validate := by
  refine (Name.sparesSchema_demand d.name).bind fun _ _ => ?_
  simp only
  split
  · exact .error (EngineError.not_blamesSchema_malformed _)
  · split
    · exact .error (EngineError.not_blamesSchema_malformed _)
    · exact .ok ()

/-! ## The orchestrator -/

theorem WriteMode.sparesSchema_demand (mode : WriteMode) (resource name : String) (taken : Bool) :
    SparesSchema (mode.demand resource name taken) := by
  cases mode <;> cases taken <;> first | exact .ok () | exact .error (by simp)

namespace Simulator

variable {α : Type}

theorem sparesSchema_find (objects : Dict α) (resource name : String) :
    SparesSchema (find objects resource name) := by
  rw [find]
  split
  · exact .ok _
  · exact .error (EngineError.not_blamesSchema_notFound _ _)

theorem sparesSchema_store (objects : Dict α) (resource : String) (metadata : Cluster.Meta)
    (object : α) (mode : WriteMode) :
    SparesSchema (store objects resource metadata object mode) := by
  rw [store]
  split
  · exact .error (EngineError.not_blamesSchema_malformed _)
  · exact (mode.sparesSchema_demand ..).bind fun _ _ => .ok _

theorem sparesSchema_settle {s : Simulator} {result : Outcome (α × Simulator)}
    (h : SparesSchema result) : SparesSchema (s.settle result).1 := by
  cases result with
  | ok a => exact .ok _
  | error e => exact .error (h.blameless e rfl)

theorem sparesSchema_createJob (s : Simulator) (now : Instant) (job : Cluster.Job) :
    SparesSchema (s.createJob now job) := by
  rw [createJob_eq, jobName]
  refine SparesSchema.bind ?_ fun name _ => (WriteMode.sparesSchema_demand ..).bind fun _ _ => .ok _
  split
  · exact .ok _
  · exact .ok _
  · exact .error (EngineError.not_blamesSchema_malformed _)

/-- The orchestrator knows nothing of schemas. -/
theorem sparesSchema_answer (s : Simulator) (now : Instant) (call : WorkloadCall) :
    SparesSchema (s.answer now call).1 := by
  cases call with
  | createJob job => exact sparesSchema_settle (s.sparesSchema_createJob now job)
  | getJob name =>
    exact sparesSchema_settle ((sparesSchema_find ..).bind fun _ _ => .ok _)
  | deleteJob name =>
    exact sparesSchema_settle ((sparesSchema_find ..).bind fun _ _ => .ok _)
  | applyCronJob object mode =>
    exact sparesSchema_settle ((sparesSchema_store ..).bind fun _ _ => .ok _)
  | getCronJob name => exact sparesSchema_find ..
  | deleteCronJob name =>
    exact sparesSchema_settle ((sparesSchema_find ..).bind fun _ _ => .ok _)
  | applyDeployment object mode =>
    exact sparesSchema_settle ((sparesSchema_store ..).bind fun _ _ => .ok _)
  | getDeployment name => exact sparesSchema_find ..
  | deleteDeployment name =>
    exact sparesSchema_settle ((sparesSchema_find ..).bind fun _ _ => .ok _)
  | podLogs pod container =>
    simp only [answer]
    split
    · exact .ok _
    · exact .error (EngineError.not_blamesSchema_notFound _ _)
  | _ => exact .ok _

end Simulator

/-! ## Procedures -/

namespace World

variable {w : World} {α β : Type}

/-- A procedure does not fail because of a schema. -/
def Spares (w : World) (p : Procedure α) : Prop := SparesSchema (w.run p).1

theorem Spares.pure (a : α) : w.Spares (pure a) := .ok a

theorem Spares.bind {p : Procedure α} {next : α → Procedure β} (hp : w.Spares p)
    (hnext : ∀ a v, w.run p = (.ok a, v) → v.Spares (next a)) : w.Spares (p >>= next) := by
  rw [Spares, run_bind]
  rcases hrun : w.run p with ⟨e | a, v⟩
  · exact .error (hp.blameless e (by rw [hrun]))
  · exact hnext a v hrun

theorem Spares.map {p : Procedure α} (h : w.Spares p) (f : α → β) : w.Spares (f <$> p) := by
  rw [Spares, run_map]
  exact SparesSchema.map h f

theorem Spares.audited {p : Procedure α} (h : w.Spares p) (principal : Principal)
    (action : AuditAction) (category : ResourceKind) (target : String) :
    w.Spares (Procedure.audited principal action category target p) := by
  rw [Spares, run_audited]
  exact h

theorem spares_each {act : α → Procedure β} (h : ∀ a w, World.Spares w (act a)) (as : List α)
    (w : World) : w.Spares (Dialogue.each act as) := by
  induction as generalizing w with
  | nil => exact .pure _
  | cons a as ih => exact (h a w).bind fun _ v _ => (ih v).bind fun _ _ _ => .pure _

theorem spares_workloads (w : World) (call : WorkloadCall) :
    w.Spares (Procedure.workloads call) := by
  rw [Spares, run_workloads, guarded]
  split
  · exact .error (EngineError.not_blamesSchema_infrastructure _ _)
  · exact Simulator.sparesSchema_answer ..

theorem spares_findPods (w : World) (id : String) (owner : Option String) :
    w.Spares (findPods id owner) := by
  refine (w.spares_workloads _).bind fun pods v _ => ?_
  split
  · exact .error (EngineError.not_blamesSchema_notFound _ _)
  · exact .pure _

theorem spares_readLogs (w : World) (pods : List Cluster.Pod) : w.Spares (readLogs pods) := by
  refine Spares.bind (spares_each (fun log v => ?_) _ w) fun _ _ _ => .pure _
  exact (v.spares_workloads _).bind fun _ _ _ => .pure _

theorem spares_collectOutput (w : World) (id : String) (owner : Option String) :
    w.Spares (collectOutput id owner) :=
  (w.spares_findPods id owner).bind fun pods v _ => (v.spares_readLogs pods).bind fun _ _ _ => .ok _

theorem spares_assemble (w : World) (job : Cluster.Job) (owner : Option String) :
    w.Spares (assemble job owner) := by
  have hcollect := w.spares_collectOutput (JobSummary.ofCluster job).id owner
  rw [Spares, assemble, run_bind, run_attempt]
  rcases hrun : (w.run (collectOutput (JobSummary.ofCluster job).id owner)).1 with e | output
  · have hspares : ¬ e.BlamesSchema := hcollect.blameless e hrun
    simp only
    split
    · exact .ok _
    · exact .error hspares
  · exact .ok _

theorem spares_pollRound (policy : PollPolicy) (id : String) (started due : Nat)
    {next : Nat → Cluster.Job → Procedure WaitOutcome}
    (hnext : ∀ (v : World) (woken : Nat) (job : Cluster.Job), v.Spares (next woken job))
    (w : World) : w.Spares (pollRound policy id started due next) := by
  refine Spares.bind (p := Procedure.sleepUntil due) (.ok _) fun woken v _ => ?_
  refine (v.spares_workloads (.getJob id)).bind fun job u _ => ?_
  split
  · exact .pure _
  · refine Spares.bind (p := Procedure.clock) (.ok _) fun now v _ => ?_
    split
    · exact .pure _
    · exact hnext v woken job

theorem spares_pollFrom (policy : PollPolicy) (id : String) (started laterReads due : Nat)
    (w : World) : w.Spares (pollFrom policy id started laterReads due) := by
  induction laterReads generalizing due w with
  | zero =>
    rw [pollFrom_zero]
    exact spares_pollRound _ _ _ _ (fun _ _ _ => .pure _) w
  | succ more ih =>
    rw [pollFrom_succ]
    exact spares_pollRound _ _ _ _ (fun v _ _ => ih _ v) w

theorem spares_waitMeasured (w : World) (policy : PollPolicy) (id : String) :
    w.Spares (waitMeasured policy id) := by
  have hwait : ∀ v : World, v.Spares (waitFor policy id) := fun v =>
    Spares.bind (p := Procedure.clock) (.ok _) fun started u _ =>
      spares_pollFrom policy id started policy.laterReads started u
  refine Spares.bind (p := Procedure.clock) (.ok _) fun started v _ => ?_
  rw [Spares, run_bind, run_attempt]
  exact hwait v

/-! ## Usable tasks -/

/-- Whether a task loads and its schema, if it has one, is a schema. -/
def Usable (w : World) (name : String) : Prop :=
  ∃ t, (w.run (loadTask name)).1 = .ok t ∧
    ∀ schema, t.schema = some schema → Schema.check schema = .ok ()

/-- A usable task is found with a schema that passes the check. -/
theorem usable_iff (h : w.StoresHold) {name : String} :
    w.Usable name ↔ ∃ t, w.taskNamed name = .ok t ∧
      ∀ schema, t.schema = some schema → Schema.check schema = .ok () := by
  rw [Usable, run_loadTask h]

theorem spares_loadTask {name : String} (husable : w.Usable name) : w.Spares (loadTask name) := by
  obtain ⟨t, hload, -⟩ := husable
  rw [Spares, hload]
  exact .ok t

theorem spares_loadRunner (h : w.StoresHold) (name : String) : w.Spares (loadRunner name) := by
  rw [Spares, run_loadRunner h, runnerNamed]
  split
  · split
    · exact .ok _
    · exact .error (EngineError.not_blamesSchema_notFound _ _)
  · exact .error (EngineError.not_blamesSchema_notFound _ _)

/-- Preparing the launch of a usable task does not fail because of its schema. -/
theorem spares_prepare (h : w.StoresHold) {name : String} (husable : w.Usable name)
    (vars : Option String) : w.Spares (prepare name vars) := by
  obtain ⟨t, hload, hchecked⟩ := (usable_iff h).mp husable
  obtain ⟨metrics, hrun⟩ := run_prepare h name vars
  have hrunner := spares_loadRunner h t.runner
  rw [Spares, run_loadRunner h] at hrunner
  rw [Spares, hrun, prepared, hload, Outcome.ok_bind]
  exact hrunner.bind fun runner _ => (Schema.sparesSchema_judge hchecked _).bind fun _ _ => .ok _

theorem spares_launch (h : w.StoresHold) {name : String} (husable : w.Usable name)
    (config : EngineConfig) (owner : String) (vars : Option String) :
    w.Spares (launch config name owner vars) := by
  refine (spares_prepare h husable vars).bind fun ready v _ => ?_
  refine (v.spares_workloads _).bind fun created u _ => ?_
  refine Spares.bind (p := Procedure.count _) (.ok _) fun _ w _ => ?_
  split
  · exact (w.spares_waitMeasured _ _).bind fun waited v _ =>
      (v.spares_assemble _ _).bind fun _ _ _ => .pure _
  · exact .pure _

theorem spares_applyCronJob (h : w.StoresHold) (config : EngineConfig) {c : CronJob}
    (husable : w.Usable c.task) (mode : WriteMode) : w.Spares (applyCronJob config c mode) := by
  refine Spares.bind (p := Dialogue.lift c.validate) c.sparesSchema_validate fun _ v hv => ?_
  obtain ⟨-, rfl⟩ := Prod.mk.inj hv
  refine (spares_prepare h husable _).bind fun ready v _ => ?_
  exact (v.spares_workloads _).bind fun _ _ _ => .ok _

theorem spares_applyDeployment (h : w.StoresHold) (config : EngineConfig) {d : Deployment}
    (husable : w.Usable d.task) (mode : WriteMode) : w.Spares (applyDeployment config d mode) := by
  refine Spares.bind (p := Dialogue.lift d.validate) d.sparesSchema_validate fun _ v hv => ?_
  obtain ⟨-, rfl⟩ := Prod.mk.inj hv
  refine (spares_prepare h husable _).bind fun ready v _ => ?_
  exact (v.spares_workloads _).bind fun _ _ _ => .ok _

theorem spares_getTask (h : w.StoresHold) {name : String} (husable : w.Usable name) :
    w.Spares (getTask name) := by
  obtain ⟨t, hload, -⟩ := (usable_iff h).mp husable
  rw [Spares, run_getTask h, hload]
  exact .ok _

theorem spares_getSchema {name : String} (husable : w.Usable name) : w.Spares (getSchema name) :=
  (spares_loadTask husable).bind fun _ _ _ => .pure _

/-- Writing a task does not fail because of its schema, if that passes the check and is read back. -/
theorem spares_writeTask (h : w.StoresHold) {t : Task} (mode : WriteMode)
    (hchecked : ∀ schema, t.schema = some schema → Schema.check schema = .ok ())
    (hreads : ∀ schema, t.schema = some schema → schema.Rereads) : w.Spares (writeTask t mode) := by
  have hadmits : SparesSchema (w.admitTask t mode) := by
    refine t.sparesSchema_validate.bind fun _ _ => SparesSchema.bind ?_ fun _ _ => ?_
    · rw [checkedSchema]
      cases hschema : t.schema with
      | none => exact .ok ()
      | some schema =>
        simp only [hchecked schema hschema]
        exact .ok ()
    · have hrunner := spares_loadRunner h t.runner
      rw [Spares, run_loadRunner h] at hrunner
      exact hrunner.bind fun _ _ => WriteMode.sparesSchema_demand ..
  rw [Spares, run_writeTask h]
  cases hadmitted : w.admitTask t mode with
  | error e => exact .error (hadmits.blameless e hadmitted)
  | ok u =>
    obtain ⟨again, hagain⟩ := Task.ofRecord_toRecord_of_rereads hreads
    simp only [hagain]
    exact .ok _

theorem spares_updateTask (h : w.StoresHold) (principal : Principal) {t : Task}
    (husable : w.Usable t.name)
    (hchecked : ∀ schema, t.schema = some schema → Schema.check schema = .ok ())
    (hreads : ∀ schema, t.schema = some schema → schema.Rereads) :
    w.Spares (updateTask principal t) := by
  refine Spares.audited ((spares_loadTask husable).bind fun _ v hv => ?_) ..
  rw [run_loadTask h] at hv
  obtain ⟨-, rfl⟩ := Prod.mk.inj hv
  exact spares_writeTask h .update hchecked hreads

theorem sparesSchema_put (s : RecordStore) (resource name : String) (record : Record)
    (mode : WriteMode) : SparesSchema (s.put resource name record mode) := by
  rw [RecordStore.put_eq]
  exact (mode.sparesSchema_demand ..).map _

/-- The stores know nothing of schemas. -/
theorem spares_catalog (w : World) (call : CatalogCall) : w.Spares (Procedure.catalog call) := by
  rw [Spares, run_catalog, guarded]
  split
  · exact .error (EngineError.not_blamesSchema_infrastructure _ _)
  · cases call with
    | get name => exact .ok _
    | list => exact .ok _
    | put name record mode =>
      simp only [RecordStore.answerCatalog]
      cases hput : w.catalog.put CatalogCall.resource name record mode with
      | ok s => exact .ok _
      | error e => exact .error ((sparesSchema_put ..).blameless e hput)
    | delete name =>
      simp only [RecordStore.answerCatalog]
      split
      · exact .ok _
      · exact .error (EngineError.not_blamesSchema_notFound _ _)

theorem spares_deleteSecret (w : World) (name : String) :
    w.Spares (Procedure.secrets (.delete name)) := by
  rw [Spares, run_secrets, guarded]
  split
  · exact .error (EngineError.not_blamesSchema_infrastructure _ _)
  · simp only [RecordStore.answerSecrets]
    split <;> exact .ok _

theorem spares_deleteTask (principal : Principal) {name : String} (husable : w.Usable name) :
    w.Spares (deleteTask principal name) := by
  refine Spares.audited ((spares_loadTask husable).bind fun t v _ => ?_) ..
  refine (v.spares_workloads _).bind fun cronJobs v _ => ?_
  cases cronJobs with
  | cons c rest => exact .error (EngineError.not_blamesSchema_dependency _ _ _)
  | nil =>
    refine (v.spares_workloads _).bind fun deployments v _ => ?_
    cases deployments with
    | cons d rest => exact .error (EngineError.not_blamesSchema_dependency _ _ _)
    | nil => exact (v.spares_catalog _).bind fun _ v _ => v.spares_deleteSecret name

theorem spares_deleteSchema (principal : Principal) {name : String} (husable : w.Usable name) :
    w.Spares (deleteSchema principal name) := by
  refine Spares.audited ((spares_loadTask husable).bind fun t v _ => ?_) ..
  split
  · exact (v.spares_catalog _).bind fun _ _ _ => .pure _
  · exact .pure _

theorem spares_updateSchema (principal : Principal) {name : String} {schema : Json}
    (husable : w.Usable name) (hchecked : Schema.check schema = .ok ()) :
    w.Spares (updateSchema principal name schema) := by
  refine Spares.audited (Spares.bind (p := Dialogue.lift (Schema.check schema)) ?_ fun _ v hv => ?_) ..
  · rw [hchecked]
    exact .ok ()
  · obtain ⟨-, rfl⟩ := Prod.mk.inj hv
    exact (spares_loadTask husable).bind fun t v _ => (v.spares_catalog _).bind fun _ _ _ => .pure _

end World

/-! ## Calls -/

/-- The task that a call uses. -/
def ServiceCall.task? : ServiceCall → Option String
  | .getTask name | .deleteTask _ name | .getSchema name | .updateSchema _ name _
  | .deleteSchema _ name | .createJob _ name _ => some name
  | .updateTask _ t => some t.name
  | .createCronJob _ c | .updateCronJob _ c => some c.task
  | .createDeployment _ d | .updateDeployment _ d => some d.task
  | _ => none

namespace World

variable {w : World}

/-- A call that uses a usable task does not fail because of a schema, unless one is submitted with it
that is refused or not read back. -/
theorem spares_call (h : w.StoresHold) (config : EngineConfig) {call : ServiceCall} {name : String}
    (husable : w.Usable name) (htask : call.task? = some name)
    (hchecked : ∀ schema, call.schema? = some schema → Schema.check schema = .ok ())
    (hreads : ∀ schema, call.schema? = some schema → schema.Rereads) :
    w.Spares (call.procedure config) := by
  cases call <;> cases htask
  case getTask => exact (spares_getTask h husable).map _
  case updateTask principal t => exact (spares_updateTask h principal husable hchecked hreads).map _
  case deleteTask principal => exact (spares_deleteTask principal husable).map _
  case getSchema => exact (spares_getSchema husable).map _
  case updateSchema principal schema =>
    exact (spares_updateSchema principal husable (hchecked schema rfl)).map _
  case deleteSchema principal => exact (spares_deleteSchema principal husable).map _
  case createJob principal vars =>
    exact ((spares_launch h husable config principal.name vars).audited ..).map _
  case createCronJob principal c =>
    exact ((spares_applyCronJob h config (c := { c with owner := principal.name }) husable
      .create).audited ..).map _
  case updateCronJob principal c =>
    exact ((spares_applyCronJob h config (c := { c with owner := principal.name }) husable
      .update).audited ..).map _
  case createDeployment principal d =>
    exact ((spares_applyDeployment h config (d := { d with owner := principal.name }) husable
      .create).audited ..).map _
  case updateDeployment principal d =>
    exact ((spares_applyDeployment h config (d := { d with owner := principal.name }) husable
      .update).audited ..).map _

/-- A stored task is usable exactly if the text of its schema is read as something that passes the
check. -/
theorem usable_iff_of_stored (h : w.StoresHold) {t : Task}
    (hstored : w.catalog.records.get? t.name = some t.toRecord) (hvalid : t.validate = .ok ()) :
    w.Usable t.name ↔ ∀ schema, t.schema = some schema →
      ∃ again, Json.read? schema.compact = some again ∧ Schema.check again = .ok () := by
  have hload := taskNamed_of_stored hstored hvalid
  rw [Task.ofRecord_toRecord, Task.reread?] at hload
  rw [usable_iff h]
  cases hschema : t.schema with
  | none =>
    simp only [hschema] at hload
    simp [hload]
  | some schema =>
    simp only [hschema] at hload
    cases hread : Json.read? schema.compact with
    | none =>
      simp only [hread, Option.map_none] at hload
      simp [hload, hread]
    | some again =>
      simp only [hread, Option.map_some] at hload
      simp [hload, hread]

/-- Every launch of a task that is not usable is refused because of its schema. -/
theorem blamesSchema_of_not_usable (h : w.StoresHold) (hsound : w.stores.Sound) {t : Task}
    (hstored : w.catalog.records.get? t.name = some t.toRecord) (hvalid : t.validate = .ok ())
    (hunusable : ¬ w.Usable t.name) (vars : Option String) :
    ∃ e, (w.run (prepare t.name vars)).1 = .error e ∧ e.BlamesSchema := by
  obtain ⟨metrics, hrun⟩ := run_prepare h t.name vars
  have hload := taskNamed_of_stored hstored hvalid
  rw [Task.ofRecord_toRecord] at hload
  rw [hrun, prepared]
  cases hread : t.reread? with
  | none =>
    rw [hread] at hload
    rw [hload]
    exact ⟨_, rfl, .inr ⟨_, rfl⟩⟩
  | some again =>
    rw [hread] at hload
    -- The runner is there, so it is the schema that the input is judged by.
    obtain ⟨runner, hrunner⟩ : ∃ r, w.runnerNamed t.runner = .ok r := by
      have hheld := hsound.runner t.name t.toRecord hstored (Task.isRecord_toRecord hvalid)
      rw [Task.field_runner_toRecord] at hheld
      exact runnerNamed_of_holds hheld
    obtain ⟨schema, rfl, hrefused⟩ : ∃ schema, again = some schema ∧
        Schema.check schema ≠ .ok () := by
      by_contra hall
      refine hunusable ((usable_iff h).mpr ⟨_, hload, fun schema hschema => ?_⟩)
      by_contra hrefused
      exact hall ⟨schema, hschema, hrefused⟩
    refine ⟨Schema.invalidSchema, ?_, .inl rfl⟩
    simp only [hload, Outcome.ok_bind, hrunner, Schema.judge_of_check_ne_ok hrefused,
      Outcome.error_bind]

/-- Whatever is done with a task fails with the same error. -/
structure FailsWith (w : World) (name : String) (e : EngineError) : Prop where
  get : (w.run (getTask name)).1 = .error e
  update : ∀ principal t, t.name = name → (w.run (updateTask principal t)).1 = .error e
  delete : ∀ principal, (w.run (deleteTask principal name)).1 = .error e
  deleteSchema : ∀ principal, (w.run (deleteSchema principal name)).1 = .error e
  launch : ∀ vars, (w.run (prepare name vars)).1 = .error e

/-- Nothing can be done with a task that does not load. -/
theorem failsWith_of_error (h : w.StoresHold) {name : String} {e : EngineError}
    (hload : w.taskNamed name = .error e) : w.FailsWith name e := by
  have hrun : w.run (loadTask name) = (.error e, w) := by rw [run_loadTask h, hload]
  refine ⟨?_, fun principal t hname => ?_, fun principal => ?_, fun principal => ?_, fun vars => ?_⟩
  · rw [getTask, run_bind_of_error hrun]
  · subst hname
    rw [updateTask, run_audited, run_bind_of_error hrun]
  · rw [deleteTask, run_audited, run_bind_of_error hrun]
  · rw [deleteSchema, run_audited, run_bind_of_error hrun]
  · rw [prepare, run_bind_of_error hrun]

/-- What loads under the name of a task whose schema is not read from its text. -/
theorem taskNamed_of_unread {t : Task}
    (hstored : w.catalog.records.get? t.name = some t.toRecord) (hvalid : t.validate = .ok ())
    {schema : Json} (hschema : t.schema = some schema)
    (hunread : Json.read? schema.compact = none) :
    w.taskNamed t.name =
      .error (.serialization (Task.malformedSchema t.name ++ "not a JSON text")) := by
  have hreread : t.reread? = none := by simp only [Task.reread?, hschema, hunread, Option.map_none]
  rw [taskNamed_of_stored hstored hvalid, Task.ofRecord_toRecord, hreread]

/-- What becomes of a task that is stored with a schema. -/
structure DependsOnSchema (w : World) (config : EngineConfig) (name : String) (t : Task) :
    Prop where
  stored : w.catalog.records.get? name = some t.toRecord
  /-- The task is usable exactly if the text of its schema is read and stands for a schema. -/
  usable : w.Usable name ↔ ∀ schema, t.schema = some schema →
    schema.depth ≤ Json.maxDepth ∧ Schema.check schema.reread = .ok ()
  /-- If it is, no call that uses the task fails because of the schema. -/
  spares : w.Usable name → ∀ call : ServiceCall, call.task? = some name →
    (∀ schema, call.schema? = some schema →
      Schema.check schema = .ok () ∧ schema.Fits ∧ schema.depth ≤ Json.maxDepth) →
    ∀ e, (w.run (call.procedure config)).1 = .error e → ¬ e.BlamesSchema
  /-- If it is not, every launch fails because of the schema. -/
  refused : ¬ w.Usable name → ∀ vars, ∃ e, (w.run (prepare name vars)).1 = .error e ∧
    e.BlamesSchema
  /-- If the schema nests too deep, nothing can be done with the task. -/
  unread : ∀ schema, t.schema = some schema → Json.maxDepth < schema.depth →
    w.FailsWith name (.serialization (Task.malformedSchema name ++ "not a JSON text"))

/-- All along a session, a stored task has a schema that was submitted and accepted, if it has one,
and is usable exactly if that nests no deeper than JSON text may and is still a schema once its
numbers were read from text. -/
theorem depends_on_schema (config : EngineConfig) {events : List SessionEvent}
    (hfits : ∀ schema ∈ SessionEvent.schemas events, schema.Fits) {name : String}
    (hheld : (World.after config {} events).stores.HoldsTask name) :
    ∃ t : Task, (∀ schema, t.schema = some schema → SessionEvent.Introduced events schema) ∧
      (World.after config {} events).DependsOnSchema config name t := by
  have hholds := storesHold_after config events
  have hsound := stores_after Stores.sound_empty Stores.Sound.step config events
  obtain ⟨record, hstored, htask⟩ := hheld
  obtain ⟨t, rfl, hsecret, hvalid, rfl, hintroduced⟩ := exists_task_after config events hstored htask
  refine ⟨t, hintroduced, hstored, ?_, fun husable call hcall hschema => ?_,
    fun hunusable vars => ?_, fun schema hschema hdeep => ?_⟩
  · rw [usable_iff_of_stored hholds hstored hvalid]
    refine forall_congr' fun schema => imp_congr_right fun hschema => ?_
    rw [Json.read?_compact_eq (hfits schema (hintroduced schema hschema).1)]
    split <;> simp_all
  · exact (spares_call hholds config husable hcall (fun schema hs => (hschema schema hs).1)
      fun schema hs => .of_fits (hschema schema hs).2.1 (hschema schema hs).2.2).blameless
  · exact blamesSchema_of_not_usable hholds hsound hstored hvalid hunusable vars
  · have hunread := Json.read?_compact_of_deep (hfits schema (hintroduced schema hschema).1) hdeep
    exact failsWith_of_error hholds (taskNamed_of_unread hstored hvalid hschema hunread)

/-! ## Schemas that are accepted and lost -/

/-- Arrays within an array. -/
def nested : Nat → Json
  | 0 => .arr []
  | levels + 1 => .arr [nested levels]

theorem depth_nested (levels : Nat) : (nested levels).depth = levels + 1 := by
  induction levels with
  | zero => rfl
  | succ levels ih => rw [nested, Json.depth, Json.depthItems, ih, Json.depthItems, Nat.max_zero]

theorem fits_nested (levels : Nat) : (nested levels).Fits := by
  induction levels with
  | zero => trivial
  | succ levels ih => exact ⟨ih, trivial⟩

/-- A schema with a default value that nests one level too deep. -/
def deepSchema : Json := .obj [("default", nested 126)]

theorem fits_deepSchema : deepSchema.Fits := ⟨fits_nested 126, trivial⟩

theorem depth_deepSchema : deepSchema.depth = 128 := by
  rw [deepSchema, Json.depth, Json.depthFields, depth_nested]
  rfl

/-- A schema with a whole number of which half a unit too much is read. -/
def roundedSchema : Json :=
  .obj [("minLength", .num (.float ((Number.Binary64.ofInt? 4503599627370494).getD .zero)))]

theorem fits_roundedSchema : roundedSchema.Fits := by
  simp [roundedSchema, Json.Fits, Json.FitsFields, JsonNumber.Fits]

/-- The task of a greeting, with a schema. -/
def helloWith (schema : Option Json) : Task where
  name := "hello"
  runner := "shell"
  command := "echo hello"
  synchronous := false
  schema := schema
  secret := none

/-- A greeting whose task gets a schema. -/
def greetingWith (schema : Json) : List SessionEvent :=
  greeting ++ [.call (.updateSchema ⟨"alice", "local"⟩ "hello" schema)]

theorem validate_helloWith (schema : Option Json) : (helloWith schema).validate = .ok () := by
  change (helloWith none).validate = .ok ()
  decide +kernel

/-- A schema that is accepted is stored. -/
theorem stored_greetingWith {schema : Json} (h : Schema.check schema = .ok ()) :
    (World.after .standard {} (greetingWith schema)).catalog.records.get? "hello" =
      some (helloWith (some schema)).toRecord := by
  have hload : (World.after .standard {} greeting).taskNamed "hello" = .ok (helloWith none) := by
    decide +kernel
  obtain ⟨audit, hrun⟩ := run_updateSchema (storesHold_after .standard greeting)
    ⟨"alice", "local"⟩ "hello" schema
  rw [h, Outcome.ok_bind, hload] at hrun
  have hstep : World.after .standard {} (greetingWith schema) =
      ((World.after .standard {} greeting).run
        ((ServiceCall.updateSchema ⟨"alice", "local"⟩ "hello" schema).procedure .standard)).2 := by
    rw [greetingWith, after, List.foldl_append]
    rfl
  rw [hstep, ServiceCall.procedure, run_map, hrun]
  simp [RecordStore.written, helloWith]

theorem holdsTask_greetingWith {schema : Json} (h : Schema.check schema = .ok ()) :
    (World.after .standard {} (greetingWith schema)).stores.HoldsTask "hello" :=
  ⟨_, stored_greetingWith h, Task.isRecord_toRecord (validate_helloWith _)⟩

theorem schemas_greetingWith (schema : Json) :
    SessionEvent.schemas (greetingWith schema) = [schema] := rfl

/-- An accepted schema leaves a usable task exactly if its text is read as a schema. -/
theorem usable_greetingWith {schema : Json} (h : Schema.check schema = .ok ()) :
    (World.after .standard {} (greetingWith schema)).Usable "hello" ↔
      ∃ again, Json.read? schema.compact = some again ∧ Schema.check again = .ok () := by
  have hiff := usable_iff_of_stored (t := helloWith (some schema)) (storesHold_after _ _)
    (stored_greetingWith h) (validate_helloWith _)
  simpa [helloWith] using hiff

/-- A task is left by an accepted schema in such a way that it cannot even be removed, and by another
one that it cannot be launched. -/
theorem not_usable_after_acceptance :
    (Schema.check deepSchema = .ok () ∧
      (World.after .standard {} (greetingWith deepSchema)).stores.HoldsTask "hello" ∧
      ¬ (World.after .standard {} (greetingWith deepSchema)).Usable "hello" ∧
      (World.after .standard {} (greetingWith deepSchema)).FailsWith "hello"
        (.serialization (Task.malformedSchema "hello" ++ "not a JSON text"))) ∧
    Schema.check roundedSchema = .ok () ∧
      (World.after .standard {} (greetingWith roundedSchema)).stores.HoldsTask "hello" ∧
      ¬ (World.after .standard {} (greetingWith roundedSchema)).Usable "hello" ∧
      ∃ e, ((World.after .standard {} (greetingWith roundedSchema)).run (prepare "hello" none)).1 =
        .error e ∧ e.BlamesSchema := by
  constructor
  · have haccepted : Schema.check deepSchema = .ok () := by decide +kernel
    have hunread : Json.read? deepSchema.compact = none :=
      Json.read?_compact_of_deep fits_deepSchema (by rw [depth_deepSchema]; decide)
    have hload := taskNamed_of_unread (t := helloWith (some deepSchema))
      (stored_greetingWith haccepted) (validate_helloWith _) rfl hunread
    refine ⟨haccepted, holdsTask_greetingWith haccepted, ?_, ?_⟩
    · simp [usable_greetingWith haccepted, hunread]
    · exact failsWith_of_error (storesHold_after _ _) hload
  · have haccepted : Schema.check roundedSchema = .ok () := by decide +kernel
    have hread : Json.read? roundedSchema.compact = some roundedSchema.reread :=
      Json.read?_compact fits_roundedSchema (by decide)
    have hrefused : Schema.check roundedSchema.reread ≠ .ok () := by decide +kernel
    have hunusable : ¬ (World.after .standard {} (greetingWith roundedSchema)).Usable "hello" := by
      simp [usable_greetingWith haccepted, hread, hrefused]
    have hsound := stores_after Stores.sound_empty Stores.Sound.step .standard
      (greetingWith roundedSchema)
    exact ⟨haccepted, holdsTask_greetingWith haccepted, hunusable,
      blamesSchema_of_not_usable (t := helloWith (some roundedSchema)) (storesHold_after _ _) hsound
        (stored_greetingWith haccepted) (validate_helloWith _) hunusable none⟩

/-- The task of the greeting depends on the schema that nests too deep. -/
theorem depends_on_schema_deep :
    (∀ schema ∈ SessionEvent.schemas (greetingWith deepSchema), schema.Fits) ∧
      (World.after .standard {} (greetingWith deepSchema)).stores.HoldsTask "hello" ∧
      ∃ t : Task, (∀ schema, t.schema = some schema →
          SessionEvent.Introduced (greetingWith deepSchema) schema) ∧
        (World.after .standard {} (greetingWith deepSchema)).DependsOnSchema .standard "hello" t := by
  have hfits : ∀ schema ∈ SessionEvent.schemas (greetingWith deepSchema), schema.Fits := by
    rw [schemas_greetingWith]
    exact List.forall_mem_singleton.mpr fits_deepSchema
  have haccepted : Schema.check deepSchema = .ok () := by decide +kernel
  have hheld := holdsTask_greetingWith haccepted
  exact ⟨hfits, hheld, depends_on_schema .standard hfits hheld⟩

end World

end TaskEngine
