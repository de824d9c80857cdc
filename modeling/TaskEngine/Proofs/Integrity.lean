import TaskEngine.Proofs.Engine.Steps
import TaskEngine.Proofs.Selector

/-!
# Referential integrity

Runners and tasks share one space of names, every task has its runner, and whatever runs a task has
its task. One change at a time keeps this: a record is only ever replaced by one of its own kind,
and only removed when nothing refers to it. Removal is refused exactly then when something does.
-/

namespace TaskEngine

open Engine

/-- The record of a runner does not describe a task. -/
theorem Task.isRecord_toRecord_runner (r : Runner) : Task.isRecord r.toRecord = false := by
  rw [← Bool.not_eq_true, Task.isRecord_iff, Runner.field_runner_toRecord]
  simp

/-- The record of a task does not describe a runner. -/
theorem Runner.isRecord_toRecord_task (t : Task) : Runner.isRecord t.toRecord = false := by
  rw [← Bool.not_eq_true, Runner.isRecord_iff, Task.field_image_toRecord]
  simp

namespace Stores

/-! ## The invariant -/

/-- Every reference of the stores leads somewhere. -/
structure Sound (s : Stores) : Prop where
  /-- Records have legal names. -/
  legal : ∀ name record, s.catalog.records.get? name = some record → Name.isLegal name = true
  /-- A record is that of a runner or that of a task, never both. -/
  kind : ∀ name record, s.catalog.records.get? name = some record →
    Runner.isRecord record = true ∧ Task.isRecord record = false ∨
      Runner.isRecord record = false ∧ Task.isRecord record = true
  /-- The runner of a task is there. -/
  runner : ∀ name record, s.catalog.records.get? name = some record →
    Task.isRecord record = true → s.HoldsRunner (record.field "runner")
  /-- The task of a scheduled job is there. -/
  cronJob : ∀ key object, s.workloads.cronJobs.get? key = some object →
    ∃ task, object.metadata.labels.bind (·.get? Label.task) = some task ∧ s.HoldsTask task
  /-- The task of a deployment is there. -/
  deployment : ∀ key object, s.workloads.deployments.get? key = some object →
    ∃ task, object.metadata.labels.bind (·.get? Label.task) = some task ∧ s.HoldsTask task

/-- Nothing is wrong with empty stores. -/
theorem sound_empty : (World.stores {}).Sound where
  legal := by simp [World.stores]
  kind := by simp [World.stores]
  runner := by simp [World.stores]
  cronJob := by simp [World.stores]
  deployment := by simp [World.stores]

variable {s t : Stores}

/-- No name is that of a runner and that of a task. -/
theorem Sound.not_holdsTask (h : s.Sound) {name : String} (hrunner : s.HoldsRunner name) :
    ¬ s.HoldsTask name := by
  obtain ⟨record, hget, hrecord⟩ := hrunner
  rintro ⟨other, hother, htask⟩
  rw [hget] at hother
  cases hother
  rcases h.kind name record hget with ⟨-, hnot⟩ | ⟨hnot, -⟩
  · rw [htask] at hnot
    cases hnot
  · rw [hrecord] at hnot
    cases hnot

/-- Integrity rests on the records and on the scheduled jobs and deployments alone. -/
theorem Sound.of_eq (h : s.Sound) (hrecords : t.catalog.records = s.catalog.records)
    (hcronJobs : t.workloads.cronJobs = s.workloads.cronJobs)
    (hdeployments : t.workloads.deployments = s.workloads.deployments) : t.Sound where
  legal := by rw [hrecords]; exact h.legal
  kind := by rw [hrecords]; exact h.kind
  runner := by
    simp only [Holds, hrecords]
    exact h.runner
  cronJob := by
    simp only [Holds, hrecords, hcronJobs]
    exact h.cronJob
  deployment := by
    simp only [Holds, hrecords, hdeployments]
    exact h.deployment

/-! ## One change -/

/-- A record that is replaced by one of its kind is still held as one. -/
theorem Holds.written {isKind : Record → Bool} {name other : String} {record : Record}
    (secrets : RecordStore) (h : s.Holds isKind other)
    (hsame : ∀ old, s.catalog.records.get? name = some old → isKind old = true →
      isKind record = true) :
    Holds { s with catalog := s.catalog.written name record, secrets } isKind other := by
  obtain ⟨old, hold, hkind⟩ := h
  by_cases hname : name = other
  · subst hname
    exact ⟨record, by simp [RecordStore.written], hsame old hold hkind⟩
  · exact ⟨old, by simp [RecordStore.written, hname, hold], hkind⟩

/-- A record may be written where there was none or one of its kind. -/
theorem Sound.written (h : s.Sound) {name : String} {record : Record} (secrets : RecordStore)
    (hlegal : Name.isLegal name = true)
    (hkind : Runner.isRecord record = true ∧ Task.isRecord record = false ∨
      Runner.isRecord record = false ∧ Task.isRecord record = true)
    (hrunner : Task.isRecord record = true → s.HoldsRunner (record.field "runner"))
    (hsame : ∀ old, s.catalog.records.get? name = some old →
      (Runner.isRecord old = true → Runner.isRecord record = true) ∧
        (Task.isRecord old = true → Task.isRecord record = true)) :
    Sound { s with catalog := s.catalog.written name record, secrets } := by
  have hget : ∀ other, (s.catalog.written name record).records.get? other =
      if name = other then some record else s.catalog.records.get? other :=
    fun other => Dict.get?_insert ..
  have hholdsRunner : ∀ other, s.HoldsRunner other →
      HoldsRunner { s with catalog := s.catalog.written name record, secrets } other :=
    fun other hother => hother.written secrets fun old hold => (hsame old hold).1
  have hholdsTask : ∀ other, s.HoldsTask other →
      HoldsTask { s with catalog := s.catalog.written name record, secrets } other :=
    fun other hother => hother.written secrets fun old hold => (hsame old hold).2
  refine ⟨fun other stored hstored => ?_, fun other stored hstored => ?_,
    fun other stored hstored htask => ?_, fun key object hobject => ?_,
    fun key object hobject => ?_⟩
  · rw [hget] at hstored
    split at hstored
    · rename_i hname
      exact hname ▸ hlegal
    · exact h.legal other stored hstored
  · rw [hget] at hstored
    split at hstored
    · cases hstored
      exact hkind
    · exact h.kind other stored hstored
  · rw [hget] at hstored
    split at hstored
    · cases hstored
      exact hholdsRunner _ (hrunner htask)
    · exact hholdsRunner _ (h.runner other stored hstored htask)
  · obtain ⟨task, hlabel, htask⟩ := h.cronJob key object hobject
    exact ⟨task, hlabel, hholdsTask task htask⟩
  · obtain ⟨task, hlabel, htask⟩ := h.deployment key object hobject
    exact ⟨task, hlabel, hholdsTask task htask⟩

/-- A record that is not the removed one is still held. -/
theorem Holds.removed {isKind : Record → Bool} {name other : String} (secrets : RecordStore)
    (h : s.Holds isKind other) (hne : other ≠ name) :
    Holds { s with
      catalog := { s.catalog with records := s.catalog.records.erase name }
      secrets } isKind other := by
  obtain ⟨record, hrecord, hkind⟩ := h
  exact ⟨record, by simp [hne.symm, hrecord], hkind⟩

/-- Whether nothing refers to a record. -/
def Unreferred (s : Stores) (name : String) : Prop :=
  s.HoldsRunner name ∧ ¬ s.RunnerUsed name ∨ s.HoldsTask name ∧ s.TaskUnselected name

/-- The runner of a task is referred to. -/
theorem Sound.runner_ne (h : s.Sound) {name other : String} (hunused : s.Unreferred name)
    {stored : Record} (hstored : s.catalog.records.get? other = some stored)
    (htask : Task.isRecord stored = true) : stored.field "runner" ≠ name := by
  intro hname
  rcases hunused with ⟨-, hunused⟩ | ⟨hheld, -⟩
  · exact hunused ⟨other, stored, hstored, htask, hname⟩
  · exact h.not_holdsTask (hname ▸ h.runner other stored hstored htask) hheld

/-- The task that a label names is referred to, if what carries the label is selected by it. -/
theorem Sound.task_ne (h : s.Sound) {name task : String} (hunused : s.Unreferred name)
    {labels : Option Cluster.Labels} (hlabels : labels.bind (·.get? Label.task) = some task)
    (hheld : s.HoldsTask task)
    (hrefused : s.TaskUnselected name →
      Cluster.Selector.accepts (taskSelector name) labels = false) : task ≠ name := by
  rintro rfl
  rcases hunused with ⟨hrunner, -⟩ | ⟨⟨record, hrecord, -⟩, hunused⟩
  · exact h.not_holdsTask hrunner hheld
  · have hplain := Name.isPlain_of_isLegal (h.legal task record hrecord)
    have haccepts := (accepts_taskSelector hplain labels).mpr hlabels
    rw [hrefused hunused] at haccepts
    cases haccepts

/-- A record that nothing refers to may be removed. -/
theorem Sound.removed (h : s.Sound) {name : String} (secrets : RecordStore)
    (hunused : s.Unreferred name) :
    Sound { s with
      catalog := { s.catalog with records := s.catalog.records.erase name }
      secrets } := by
  refine ⟨fun other stored hstored => ?_, fun other stored hstored => ?_,
    fun other stored hstored htask => ?_, fun key object hobject => ?_,
    fun key object hobject => ?_⟩
  · exact h.legal other stored (Dict.get?_of_erase hstored)
  · exact h.kind other stored (Dict.get?_of_erase hstored)
  · have hold := Dict.get?_of_erase hstored
    exact (h.runner other stored hold htask).removed secrets (h.runner_ne hunused hold htask)
  · obtain ⟨task, hlabel, hheld⟩ := h.cronJob key object hobject
    have hne := h.task_ne hunused hlabel hheld fun hunselected => hunselected.1 key object hobject
    exact ⟨task, hlabel, hheld.removed secrets hne⟩
  · obtain ⟨task, hlabel, hheld⟩ := h.deployment key object hobject
    have hne := h.task_ne hunused hlabel hheld fun hunselected => hunselected.2 key object hobject
    exact ⟨task, hlabel, hheld.removed secrets hne⟩

/-- What carries the labels of a launch names the task. -/
theorem task_ofWorkload (owner task : String) :
    (some (Label.ofWorkload owner task) : Option Cluster.Labels).bind (·.get? Label.task) =
      some task := by
  simp [Label.ofWorkload, Dict.ofList, Dict.insertAll]

/-- A reference of a kept or a new object leads somewhere. -/
theorem refers_insert {α : Type} {objects : Dict α} (metadata : α → Cluster.Meta)
    {name owner task : String} {object : α} (hheld : s.HoldsTask task)
    (hlabels : (metadata object).labels = some (Label.ofWorkload owner task))
    (h : ∀ key object, objects.get? key = some object →
      ∃ task, (metadata object).labels.bind (·.get? Label.task) = some task ∧ s.HoldsTask task)
    (key : String) (stored : α) (hstored : (objects.insert name object).get? key = some stored) :
    ∃ task, (metadata stored).labels.bind (·.get? Label.task) = some task ∧ s.HoldsTask task :=
  Dict.forall_insert ⟨task, by rw [hlabels, task_ofWorkload], hheld⟩ h key stored hstored

/-- A change keeps integrity. -/
theorem Sound.change {target : Target} (h : s.Sound) (hchange : s.Change target t) : t.Sound := by
  cases hchange with
  | runner valid admitted rest =>
    rename_i r secrets
    have hrecord := Runner.isRecord_toRecord valid
    have hnot := Task.isRecord_toRecord_runner r
    refine h.written secrets (Runner.validate_eq_ok.mp valid).1 (.inl ⟨hrecord, hnot⟩)
      (fun htask => absurd htask (by simp [hnot]))
      fun old hold => ⟨fun _ => hrecord, fun htask => ?_⟩
    rcases admitted with hfree | hheld
    · rw [hfree] at hold
      cases hold
    · exact absurd ⟨old, hold, htask⟩ (h.not_holdsTask hheld)
  | task valid runner admitted rest =>
    rename_i task secrets
    have hrecord := Task.isRecord_toRecord valid
    have hnot := Runner.isRecord_toRecord_task task
    refine h.written secrets (Task.validate_eq_ok.mp valid).1 (.inr ⟨hnot, hrecord⟩)
      (fun _ => by simpa using runner) fun old hold => ⟨fun hrunner => ?_, fun _ => hrecord⟩
    rcases admitted with hfree | hheld
    · rw [hfree] at hold
      cases hold
    · exact absurd hheld (h.not_holdsTask ⟨old, hold, hrunner⟩)
  | schema schema stored isTask read =>
    rename_i name record task
    obtain ⟨-, hrunner, -, -⟩ := Task.ofRecord_fields read
    have hfield : ({ task with schema }.toRecord).field "runner" = record.field "runner" := by
      rw [Task.field_runner_toRecord, hrunner]
    have hrecord : Task.isRecord { task with schema }.toRecord = true := by
      rw [Task.isRecord_iff, hfield]
      exact Task.isRecord_iff.mp isTask
    have hnot := Runner.isRecord_toRecord_task { task with schema }
    refine h.written s.secrets (h.legal name record stored) (.inr ⟨hnot, hrecord⟩)
      (fun _ => by rw [hfield]; exact h.runner name record stored isTask)
      fun old hold => ⟨fun hrunner => ?_, fun _ => hrecord⟩
    exact absurd ⟨record, stored, isTask⟩ (h.not_holdsTask ⟨old, hold, hrunner⟩)
  | removal unused => exact h.removed _ unused
  | secret rest => exact h.of_eq rfl rfl rfl
  | cronJob labels held =>
    exact { h with cronJob := refers_insert Cluster.CronJob.metadata held labels h.cronJob }
  | cronJobRemoval =>
    exact { h with
      cronJob := fun key object hobject => h.cronJob key object (Dict.get?_of_erase hobject) }
  | deployment labels held =>
    exact { h with
      deployment := refers_insert Cluster.Deployment.metadata held labels h.deployment }
  | deploymentRemoval =>
    exact { h with
      deployment := fun key object hobject => h.deployment key object (Dict.get?_of_erase hobject) }
  | jobRemoval held => exact h.of_eq rfl rfl rfl

/-- Whatever happens keeps integrity. -/
theorem Sound.step (hstep : s.Step t) (h : s.Sound) : t.Sound := by
  cases hstep with
  | polled hpolled =>
    exact h.of_eq (by rw [hpolled.catalog]) hpolled.cronJobs hpolled.deployments
  | changed target hchange => exact h.change hchange
  | launched made task owner jobSuffix podSuffix hlaunched hpolled =>
    have hmade : made.Sound :=
      h.of_eq (by rw [hlaunched.catalog]) hlaunched.cronJobs hlaunched.deployments
    exact hmade.of_eq (by rw [hpolled.catalog]) hpolled.cronJobs hpolled.deployments

/-! ## Removal -/

/-- Whether a scheduled job or a deployment carries the name of this task. -/
def TaskUsed (s : Stores) (name : String) : Prop :=
  (∃ key object, s.workloads.cronJobs.get? key = some object ∧
    object.metadata.labels.bind (·.get? Label.task) = some name) ∨
  ∃ key object, s.workloads.deployments.get? key = some object ∧
    object.metadata.labels.bind (·.get? Label.task) = some name

/-- A selector that finds something finds it by its label. -/
theorem exists_of_select {α : Type} {objects : Dict α} {metadata : α → Cluster.Meta}
    {name : String} (hname : Text.IsPlain name) :
    Simulator.select objects metadata (taskSelector name) ≠ [] ↔
      ∃ key object, objects.get? key = some object ∧
        (metadata object).labels.bind (·.get? Label.task) = some name := by
  rw [Ne, Simulator.select_eq_nil]
  simp only [not_forall, Bool.not_eq_false, accepts_taskSelector hname, exists_prop]

end Stores

namespace World

variable {w : World}

/-- A removal is refused with a dependency exactly when the object is used, and done otherwise. -/
def RemovesUnless (w : World) (config : EngineConfig) (call : ServiceCall) (resource : String)
    (used : Prop) : Prop :=
  (used → ∃ dependentType dependent, (w.run (call.procedure config)).1 =
    .error (.dependency resource dependentType dependent)) ∧
  (¬ used → (w.run (call.procedure config)).1 = .ok .done)

/-- A runner that loads is removed unless a task refers to it. -/
theorem removes_deleteRunner (h : w.StoresHold) {name : String} {r : Runner}
    (hload : w.runnerNamed name = .ok r) (config : EngineConfig) (principal : Principal) :
    w.RemovesUnless config (.deleteRunner principal name) runnerResource
      (w.stores.RunnerUsed name) := by
  obtain ⟨record, hget, -, -⟩ := runnerNamed_eq_ok hload
  have hrun : (w.run ((ServiceCall.deleteRunner principal name).procedure config)).1 =
      (dependentTask? w.catalog.records.toList name).elim (.ok .done)
        fun task => .error (.dependency runnerResource taskResource task) := by
    rw [ServiceCall.procedure, run_map, deleteRunner, run_audited,
      run_bind_of_ok (by rw [run_loadRunner h, hload]), run_bind_of_ok (run_catalog_list h)]
    cases dependentTask? w.catalog.records.toList name with
    | some task => rfl
    | none => simp only [run_removal h hget]; rfl
  constructor
  · intro hused
    cases hdependent : dependentTask? w.catalog.records.toList name with
    | some task => exact ⟨taskResource, task, by rw [hrun, hdependent, Option.elim_some]⟩
    | none => exact absurd hused (dependentTask?_eq_none.mp hdependent)
  · intro hunused
    rw [hrun, dependentTask?_eq_none.mpr hunused, Option.elim_none]

/-- A task that loads is removed unless something runs it, as long as the orchestrator answers. -/
theorem removes_deleteTask (h : w.StoresHold) (hcalm : w.failing = []) (hsound : w.stores.Sound)
    {name : String} {t : Task} (hload : w.taskNamed name = .ok t) (config : EngineConfig)
    (principal : Principal) :
    w.RemovesUnless config (.deleteTask principal name) taskResource (w.stores.TaskUsed name) := by
  obtain ⟨record, hget, -, -⟩ := taskNamed_eq_ok hload
  have hplain := Name.isPlain_of_isLegal (hsound.legal name record hget)
  have hcronJobs := run_listCronJobs (w := w) (taskSelector name)
  have hdeployments := run_listDeployments (w := w) (taskSelector name)
  rw [hcalm] at hcronJobs hdeployments
  have hused : w.stores.TaskUsed name ↔
      Simulator.select w.workloads.cronJobs (·.metadata) (taskSelector name) ≠ [] ∨
        Simulator.select w.workloads.deployments (·.metadata) (taskSelector name) ≠ [] := by
    rw [Stores.TaskUsed, Stores.exists_of_select hplain, Stores.exists_of_select hplain]
    rfl
  rw [RemovesUnless, hused, ServiceCall.procedure, run_map, deleteTask, run_audited,
    run_bind_of_ok (by rw [run_loadTask h, hload]), run_bind_of_ok hcronJobs]
  cases Simulator.select w.workloads.cronJobs (·.metadata) (taskSelector name) with
  | cons c rest => exact ⟨fun _ => ⟨_, _, rfl⟩, fun hnone => by simp at hnone⟩
  | nil =>
    simp only [run_bind_of_ok hdeployments]
    cases Simulator.select w.workloads.deployments (·.metadata) (taskSelector name) with
    | cons d rest => exact ⟨fun _ => ⟨_, _, rfl⟩, fun hnone => by simp at hnone⟩
    | nil =>
      simp only [run_removal h hget]
      exact ⟨fun hsome => by simp at hsome, fun _ => rfl⟩

/-- A world in which no call is made to fail any more. -/
def calm (w : World) : World := { w with failing := [] }

/-- All along a session references lead somewhere, and once no call is made to fail, what is used is
not removed and everything else is. -/
theorem references_hold (config : EngineConfig) (events : List SessionEvent)
    (principal : Principal) (name : String) :
    (World.after config {} events).stores.Sound ∧
      (((World.after config {} events).calm.run (loadRunner name)).1.isOk = true →
        (World.after config {} events).calm.RemovesUnless config (.deleteRunner principal name)
          runnerResource ((World.after config {} events).stores.RunnerUsed name)) ∧
      (((World.after config {} events).calm.run (loadTask name)).1.isOk = true →
        (World.after config {} events).calm.RemovesUnless config (.deleteTask principal name)
          taskResource ((World.after config {} events).stores.TaskUsed name)) := by
  have hsound := stores_after Stores.sound_empty Stores.Sound.step config events
  have hholds : (World.after config {} events).calm.StoresHold :=
    ⟨fun _ => List.not_mem_nil, fun _ => List.not_mem_nil⟩
  refine ⟨hsound, fun hload => ?_, fun hload => ?_⟩
  · rw [run_loadRunner hholds] at hload
    cases hrunner : (World.after config {} events).calm.runnerNamed name with
    | error e => rw [hrunner] at hload; cases hload
    | ok r => exact removes_deleteRunner hholds hrunner config principal
  · rw [run_loadTask hholds] at hload
    cases htask : (World.after config {} events).calm.taskNamed name with
    | error e => rw [htask] at hload; cases hload
    | ok t => exact removes_deleteTask hholds rfl hsound htask config principal

/-- A session that makes a runner and a task of it. -/
def greeting : List SessionEvent :=
  [.call (.createRunner ⟨"alice", "local"⟩
    { name := "shell", image := "busybox", gitUrl := "https://example.org/greetings.git"
      branch := "", token := none }),
    .call (.createTask ⟨"alice", "local"⟩
      { name := "hello", runner := "shell", command := "echo hello", synchronous := false
        schema := none, secret := none })]

/-- The runner of a task stays, and a task that nothing runs goes. -/
theorem references_hold_greeting :
    (World.after .standard {} greeting).stores.Sound ∧
      (World.after .standard {} greeting).calm.RemovesUnless .standard
        (.deleteRunner ⟨"alice", "local"⟩ "shell") runnerResource
        ((World.after .standard {} greeting).stores.RunnerUsed "shell") ∧
      (World.after .standard {} greeting).calm.RemovesUnless .standard
        (.deleteTask ⟨"alice", "local"⟩ "hello") taskResource
        ((World.after .standard {} greeting).stores.TaskUsed "hello") :=
  ⟨(references_hold .standard greeting ⟨"alice", "local"⟩ "shell").1,
    (references_hold .standard greeting ⟨"alice", "local"⟩ "shell").2.1 (by decide +kernel),
    (references_hold .standard greeting ⟨"alice", "local"⟩ "hello").2.2 (by decide +kernel)⟩

end World

end TaskEngine
