import TaskEngine.Proofs.Integrity

/-!
# The gate of input

Input is judged before anything is submitted, and what is submitted carries the text that was
judged: blank input is dropped before the judgement, is the empty object to the reader of input, and
is left out again by the environment of the main container. So the text in a container is to the
letter the one that has passed, and what is refused leaves the orchestrator as it was.
-/

namespace TaskEngine

open Engine

/-! ## Texts that pass -/

/-- Whether an input is left out: there is none, or it is blank. -/
def ExtraVars.IsBlank (text : Option String) : Prop :=
  ∀ raw, text = some raw → Text.isBlank raw = true

/-- Input that is left out is dropped. -/
theorem ExtraVars.IsBlank.filter_eq_none {text : Option String} (h : ExtraVars.IsBlank text) :
    (text.filter fun raw => !Text.isBlank raw) = none := by
  refine Option.filter_eq_none_iff.mpr fun raw hraw => ?_
  simp [h raw hraw]

namespace Schema

/-- Whether a stored schema is in order and accepts a value. -/
def Accepts (schema value : Json) : Prop :=
  ∃ d, dialect? (normalize schema) = some d ∧ violations d (normalize schema) value = []

/-- Whether an input passes: the schema validates its text, or it only has to be read. -/
def Passes (schema : Option Json) (text : Option String) : Prop :=
  match schema with
  | some schema => validate schema (text.getD "") = .ok ()
  | none => ∃ value, parseInput (text.getD "") = .ok value

/-- A text is valid exactly when it is read as a value that the schema accepts. -/
theorem validate_eq_ok_iff {schema : Json} {raw : String} :
    validate schema raw = .ok () ↔ ∃ value, parseInput raw = .ok value ∧ Accepts schema value := by
  rw [validate]
  cases hdialect : dialect? (normalize schema) with
  | none => simp [Accepts, hdialect]
  | some d =>
    simp only [Accepts, hdialect, Option.some.injEq, exists_eq_left']
    rw [Outcome.bind_eq_ok]
    refine exists_congr fun value => and_congr_right fun _ => ?_
    cases violations d (normalize schema) value <;> simp

/-- Blank input is read as the empty object. -/
theorem parseInput_of_isBlank {raw : String} (h : Text.isBlank raw = true) :
    parseInput raw = .ok (.obj []) := by
  rw [parseInput, if_pos h]

/-- Input that is left out is read as the empty object. -/
theorem parseInput_getD_of_isBlank {text : Option String} (h : ExtraVars.IsBlank text) :
    parseInput (text.getD "") = .ok (.obj []) := by
  cases text with
  | none => exact parseInput_of_isBlank (by decide)
  | some raw => exact parseInput_of_isBlank (h raw rfl)

/-- Blank input that passes a schema is the empty object to it. -/
theorem Passes.accepts_empty {schema : Json} {text : Option String}
    (h : Passes (some schema) text) (hblank : ExtraVars.IsBlank text) :
    Accepts schema (.obj []) := by
  obtain ⟨value, hread, haccepts⟩ := validate_eq_ok_iff.mp h
  rw [parseInput_getD_of_isBlank hblank] at hread
  cases hread
  exact haccepts

/-- The input that is judged is the one that was submitted, although blank input is dropped. -/
theorem judge_filter_eq_ok_iff {schema : Option Json} {text : Option String} :
    judge schema (text.filter fun raw => !Text.isBlank raw) = .ok () ↔ Passes schema text := by
  by_cases hblank : ExtraVars.IsBlank text
  · have hempty : parseInput "" = parseInput (text.getD "") := by
      rw [parseInput_getD_of_isBlank hblank, parseInput_of_isBlank (by decide)]
    rw [hblank.filter_eq_none]
    cases schema with
    | none => exact iff_of_true rfl ⟨_, parseInput_getD_of_isBlank hblank⟩
    | some schema =>
      simp only [judge, Passes, Option.getD_none, validate_eq_ok_iff, hempty]
  · simp only [ExtraVars.IsBlank, not_forall] at hblank
    obtain ⟨raw, rfl, hfilled⟩ := hblank
    have hfilter : ((some raw).filter fun raw => !Text.isBlank raw) = some raw := by
      simp [Option.filter, hfilled]
    rw [hfilter]
    cases schema with
    | none =>
      simp only [judge, Passes, Option.getD_some]
      cases parseInput raw <;> simp
    | some schema => exact Iff.rfl

end Schema

/-! ## Texts that are delivered -/

/-- A container is handed a text to the letter, and no variable if the input is left out. -/
structure Cluster.Container.Delivers (c : Cluster.Container) (text : Option String) : Prop where
  /-- The text of a filled input is the value of the variable. -/
  exact : ∀ raw, text = some raw → Text.isBlank raw = false →
    c.env = some [{ name := ExtraVars.variableName, value := some raw }]
  /-- The variable is missing exactly if the input is left out. -/
  absent : (∀ v ∈ c.env.getD [], v.name ≠ ExtraVars.variableName) ↔ ExtraVars.IsBlank text

/-- A pod runs the main container of a task, which is handed a text. -/
def Cluster.PodSpec.Delivers (spec : Cluster.PodSpec) (taskName : String) (text : Option String) :
    Prop :=
  ∃ main, spec.containers = [main] ∧ main.name = taskName ∧ main.Delivers text

/-- The environment of a prepared input delivers the input that was submitted. -/
theorem delivers_of_environment {c : Cluster.Container} {text : Option String}
    (h : c.env = ExtraVars.environment (text.filter fun raw => !Text.isBlank raw)) :
    c.Delivers text := by
  cases text with
  | none =>
    have hnone : c.env = none := h
    refine ⟨fun raw hraw => ?_, iff_of_true ?_ ?_⟩
    · cases hraw
    · simp [hnone]
    · intro raw hraw
      cases hraw
  | some raw =>
    cases hblank : Text.isBlank raw with
    | true =>
      have hnone : c.env = none := by simpa [Option.filter, hblank, ExtraVars.environment] using h
      refine ⟨fun other hother hfilled => ?_, iff_of_true ?_ ?_⟩
      · cases hother
        rw [hblank] at hfilled
        cases hfilled
      · simp [hnone]
      · intro other hother
        cases hother
        exact hblank
    | false =>
      have hsome : c.env = some [{ name := ExtraVars.variableName, value := some raw }] := by
        simpa [Option.filter, hblank, ExtraVars.environment] using h
      refine ⟨fun other hother _ => ?_, iff_of_false ?_ ?_⟩
      · cases hother
        exact hsome
      · simp [hsome]
      · intro hleft
        have htrue := hleft raw rfl
        rw [hblank] at htrue
        cases htrue

/-! ## What is submitted and what is stored -/

/-- The task and the input that a call submits to be run. -/
def ServiceCall.submission? : ServiceCall → Option (String × Option String)
  | .createJob _ taskName vars => some (taskName, vars)
  | .createCronJob _ c | .updateCronJob _ c => some (c.task, ExtraVars.encode c.extraVars)
  | .createDeployment _ d | .updateDeployment _ d => some (d.task, ExtraVars.encode d.extraVars)
  | _ => none

/-- A call has stored its object, whose pods are of a given kind, and nothing else. -/
inductive Simulator.Stored (s : Simulator) (spec : Cluster.PodSpec) :
    ServiceCall → Simulator → Prop
  /-- A job under a name that was free, with its first pod. Its status may have been read since. -/
  | job {t : Simulator} {principal : Principal} {taskName : String} {vars : Option String}
    {id podName : String} {j : SimulatedJob} {pod : Cluster.Pod}
    (free : s.jobs.get? id = none) (made : t.jobs.get? id = some j)
    (jobSpec : j.job.spec.bind (·.template.spec) = some spec)
    (rest : ∀ other, other ≠ id →
      (t.jobs.get? other).map SimulatedJob.fixed = (s.jobs.get? other).map SimulatedJob.fixed)
    (pods : t.pods = s.pods.insert podName pod) (podSpec : pod.spec = some spec)
    (cronJobs : t.cronJobs = s.cronJobs) (deployments : t.deployments = s.deployments) :
    Stored s spec (.createJob principal taskName vars) t
  /-- A scheduled job under its name. -/
  | cronJob {call : ServiceCall} {name : String} {object : Cluster.CronJob}
    (target : call.target? = some (.cronJob name))
    (jobSpec : (object.spec.bind (·.jobTemplate.spec)).bind (·.template.spec) = some spec) :
    Stored s spec call
      { s with cronJobs := s.cronJobs.insert name object, mutations := s.mutations + 1 }
  /-- A deployment under its name. -/
  | deployment {call : ServiceCall} {name : String} {object : Cluster.Deployment}
    (target : call.target? = some (.deployment name))
    (podSpec : object.spec.bind (·.template.spec) = some spec) :
    Stored s spec call
      { s with deployments := s.deployments.insert name object, mutations := s.mutations + 1 }

namespace World

variable {w : World}

/-- Whether an input may be run: the task and its runner are found, and the input passes. -/
def Admits (w : World) (taskName : String) (text : Option String) : Prop :=
  ∃ task runner, w.taskNamed taskName = .ok task ∧ w.runnerNamed task.runner = .ok runner ∧
    Schema.Passes task.schema text

/-- What a prepared launch holds. -/
theorem prepared_eq_ok {taskName : String} {text : Option String} {ready : Preparation}
    (h : w.prepared taskName text = .ok ready) :
    w.Admits taskName text ∧ ready.task.name = taskName ∧
      ready.extraVars = text.filter fun raw => !Text.isBlank raw := by
  obtain ⟨task, htask, hrest⟩ := Outcome.bind_eq_ok.mp h
  obtain ⟨runner, hrunner, hrest⟩ := Outcome.bind_eq_ok.mp hrest
  obtain ⟨⟨⟩, hjudge, hready⟩ := Outcome.bind_eq_ok.mp hrest
  cases hready
  obtain ⟨record, -, -, hread⟩ := taskNamed_eq_ok htask
  refine ⟨⟨task, runner, htask, hrunner, ?_⟩, (Task.ofRecord_fields hread).1, rfl⟩
  exact Schema.judge_filter_eq_ok_iff.mp hjudge

/-- The pods of a prepared launch deliver its input, whatever becomes of them when they end. -/
theorem delivers_of_prepared {taskName : String} {text : Option String} {ready : Preparation}
    (h : w.prepared taskName text = .ok ready) (config : EngineConfig)
    (owner restartPolicy : String) :
    ∃ spec, ((ready.workload owner).podTemplate config restartPolicy).spec = some spec ∧
      spec.Delivers taskName text := by
  obtain ⟨-, hname, hvars⟩ := prepared_eq_ok h
  refine ⟨_, rfl, (ready.workload owner).mainContainer, rfl, hname, delivers_of_environment ?_⟩
  exact congrArg ExtraVars.environment hvars

/-- A procedure leaves the orchestrator as it is, or stores the object of a call, which delivers the
input of a task. -/
def Submits {α : Type} (w : World) (call : ServiceCall) (taskName : String) (text : Option String)
    (p : Procedure α) : Prop :=
  (w.run p).2.workloads = w.workloads ∨
    ∃ spec, w.workloads.Stored spec call (w.run p).2.workloads ∧ spec.Delivers taskName text

/-- A procedure submits an input only if it is admitted, and fails if it is not. -/
def Gates {α : Type} (w : World) (call : ServiceCall) (taskName : String) (text : Option String)
    (p : Procedure α) : Prop :=
  w.Admits taskName text ∧ w.Submits call taskName text p ∨
    (w.run p).2.workloads = w.workloads ∧ ∃ e, (w.run p).1 = .error e

/-- What comes after a preparation is run for an input that is admitted. -/
theorem Gates.of_prepared {α : Type} {call : ServiceCall} {taskName : String}
    {text : Option String} {next : Preparation → Procedure α}
    (h : ∀ (ready : Preparation) (v : World), v.prepared taskName text = .ok ready →
      v.Submits call taskName text (next ready)) :
    w.Gates call taskName text (prepare taskName text >>= next) := by
  obtain ⟨metrics, ⟨e, hrun⟩ | ⟨ready, hready, hrun⟩⟩ := run_prepare_cases w taskName text
  · rw [Gates, run_bind_of_error hrun]
    exact .inr ⟨rfl, e, rfl⟩
  · have hsubmits := h ready { w with metrics } hready
    rw [Gates, Submits, run_bind_of_ok hrun]
    exact .inl ⟨(prepared_eq_ok hready).1, hsubmits⟩

/-- What comes after the submission of an object leaves the orchestrator alone. -/
theorem Submits.of_workloads {α β : Type} {call : ServiceCall} {taskName : String}
    {text : Option String} {p : Procedure α} {next : α → Procedure β}
    (h : w.Submits call taskName text p)
    (hnext : ∀ (a : α) (v : World), (v.run (next a)).2.workloads = v.workloads) :
    w.Submits call taskName text (p >>= next) := by
  rw [Submits, run_bind]
  rcases hrun : w.run p with ⟨_ | a, v⟩
  · simpa only [Submits, hrun] using h
  · simpa only [Submits, hrun, hnext] using h

/-- A job that was made and maybe read since is what a launch stores. -/
theorem stored_of_polled {s t : Stores} {now : Instant} {job : Cluster.Job} {id : String}
    (hfree : s.workloads.jobs.get? id = none)
    (hpolled : Stores.Polled { s with workloads := s.workloads.withJob now job id } t)
    {spec : Cluster.PodSpec} (hspec : job.spec.bind (·.template.spec) = some spec)
    (principal : Principal) (taskName : String) (vars : Option String) :
    s.workloads.Stored spec (.createJob principal taskName vars) t.workloads := by
  have hjobs : ∀ other, (t.workloads.jobs.get? other).map SimulatedJob.fixed =
      ((s.workloads.jobs.insert id (s.workloads.made now job id)).get? other).map
        SimulatedJob.fixed := hpolled.jobs
  obtain ⟨j, hj, hfixed⟩ : ∃ j, t.workloads.jobs.get? id = some j ∧
      j.fixed = (s.workloads.made now job id).fixed := by
    have hmade := hjobs id
    rw [Dict.get?_insert, if_pos rfl, Option.map_some] at hmade
    exact Option.map_eq_some_iff.mp hmade
  have hjobSpec : j.job.spec = job.spec :=
    (congrArg (·.2.1) hfixed).trans (s.workloads.spec_made now job id)
  have htemplate : (job.spec.getD {}).template.spec = some spec := by
    obtain ⟨jobSpec, hsome, htemplate⟩ := Option.bind_eq_some_iff.mp hspec
    rw [hsome, Option.getD_some, htemplate]
  refine .job hfree hj (hjobSpec ▸ hspec) (fun other hne => ?_) hpolled.pods ?_
    hpolled.cronJobs hpolled.deployments
  · rw [hjobs other, Dict.get?_insert, if_neg (Ne.symm hne)]
  · rw [Script.pod, htemplate, Option.getD_some]

/-- A launch stores a job that delivers its input. -/
theorem gates_launch (w : World) (config : EngineConfig) (principal : Principal)
    (taskName owner : String) (text : Option String) :
    w.Gates (.createJob principal taskName text) taskName text
      (launch config taskName owner text) := by
  refine .of_prepared fun ready v hready => ?_
  rcases run_createJob_cases v config (ready.workload owner) with
    ⟨e, hrun⟩ | ⟨id, -, hfree, hrun⟩
  · exact .inl (by rw [run_bind_of_error hrun])
  obtain ⟨spec, hspec, hdelivers⟩ := delivers_of_prepared hready config owner "Never"
  let job := (ready.workload owner).job config
  have hpolled := polled_run (w := { v with
      workloads := v.workloads.withJob (Instant.ofMillis v.now) job id })
    (onlyLooks_afterLaunch config ready owner (v.workloads.made (Instant.ofMillis v.now) job id).job)
  have hstored := stored_of_polled (s := v.stores) hfree hpolled hspec principal taskName text
  rw [Submits, run_bind_of_ok hrun]
  exact .inr ⟨spec, hstored, hdelivers⟩

/-- A definition of a scheduled job is stored with its input. -/
theorem gates_applyCronJob (w : World) (config : EngineConfig) (c : CronJob) (mode : WriteMode)
    {call : ServiceCall} (htarget : call.target? = some (.cronJob c.name)) :
    w.Gates call c.task (ExtraVars.encode c.extraVars) (applyCronJob config c mode) := by
  rw [applyCronJob]
  cases hvalid : c.validate with
  | error e => exact .inr ⟨rfl, e, rfl⟩
  | ok u =>
    refine Gates.of_prepared fun ready v hready => ?_
    obtain ⟨spec, hspec, hdelivers⟩ := delivers_of_prepared hready config c.owner "Never"
    refine Submits.of_workloads ?_ fun _ _ => rfl
    rw [Submits, run_workloads, guarded]
    split
    · exact .inl rfl
    · simp only [Simulator.answer, Simulator.store, Workload.cronJob]
      cases mode.demand WorkloadCall.cronJobResource c.name
          (v.workloads.cronJobs.contains c.name) with
      | error e => exact .inl rfl
      | ok u => exact .inr ⟨spec, .cronJob htarget hspec, hdelivers⟩

/-- A definition of a deployment is stored with its input. -/
theorem gates_applyDeployment (w : World) (config : EngineConfig) (d : Deployment)
    (mode : WriteMode) {call : ServiceCall} (htarget : call.target? = some (.deployment d.name)) :
    w.Gates call d.task (ExtraVars.encode d.extraVars) (applyDeployment config d mode) := by
  rw [applyDeployment]
  cases hvalid : d.validate with
  | error e => exact .inr ⟨rfl, e, rfl⟩
  | ok u =>
    refine Gates.of_prepared fun ready v hready => ?_
    obtain ⟨spec, hspec, hdelivers⟩ := delivers_of_prepared hready config d.owner "Always"
    refine Submits.of_workloads ?_ fun _ _ => rfl
    rw [Submits, run_workloads, guarded]
    split
    · exact .inl rfl
    · simp only [Simulator.answer, Simulator.store, Workload.deployment]
      cases mode.demand WorkloadCall.deploymentResource d.name
          (v.workloads.deployments.contains d.name) with
      | error e => exact .inl rfl
      | ok u => exact .inr ⟨spec, .deployment htarget hspec, hdelivers⟩

/-! ## Every call -/

theorem Gates.audited {α : Type} {call : ServiceCall} {taskName : String} {text : Option String}
    {p : Procedure α} (h : w.Gates call taskName text p) (principal : Principal)
    (action : AuditAction) (category : ResourceKind) (name : String) :
    w.Gates call taskName text (Procedure.audited principal action category name p) := by
  rw [Gates, Submits, run_audited]
  exact h

theorem Gates.map {α β : Type} {call : ServiceCall} {taskName : String} {text : Option String}
    {p : Procedure α} (h : w.Gates call taskName text p) (f : α → β) :
    w.Gates call taskName text (f <$> p) := by
  rw [Gates, Submits, run_map]
  refine h.imp_right fun ⟨hsame, e, he⟩ => ⟨hsame, e, ?_⟩
  rw [he, Outcome.map_error]

/-- Every call that submits an input passes the gate with it. -/
theorem gates_call (w : World) (config : EngineConfig) {call : ServiceCall} {taskName : String}
    {text : Option String} (h : call.submission? = some (taskName, text)) :
    w.Gates call taskName text (call.procedure config) := by
  cases call <;> cases h
  case createJob principal =>
    exact ((gates_launch w config principal taskName principal.name text).audited ..).map _
  case createCronJob principal c =>
    exact ((gates_applyCronJob w config { c with owner := principal.name } .create rfl).audited
      ..).map _
  case updateCronJob principal c =>
    exact ((gates_applyCronJob w config { c with owner := principal.name } .update rfl).audited
      ..).map _
  case createDeployment principal d =>
    exact ((gates_applyDeployment w config { d with owner := principal.name } .create rfl).audited
      ..).map _
  case updateDeployment principal d =>
    exact ((gates_applyDeployment w config { d with owner := principal.name } .update rfl).audited
      ..).map _

/-- What holds of a call that submits an input. -/
structure InputGated (w : World) (config : EngineConfig) (call : ServiceCall) (taskName : String)
    (text : Option String) : Prop where
  /-- If anything is stored, the input has passed, and the object delivers it. -/
  stored : (w.run (call.procedure config)).2.workloads ≠ w.workloads →
    w.Admits taskName text ∧ ∃ spec,
      w.workloads.Stored spec call (w.run (call.procedure config)).2.workloads ∧
        spec.Delivers taskName text
  /-- If that input is left out, the schema of the task has accepted the empty object. -/
  empty : (w.run (call.procedure config)).2.workloads ≠ w.workloads → ExtraVars.IsBlank text →
    ∀ task schema, w.taskNamed taskName = .ok task → task.schema = some schema →
      Schema.Accepts schema (.obj [])
  /-- If the task, its runner or the input is refused, the call fails and changes no workload. -/
  refused : ¬ w.Admits taskName text →
    (∃ e, (w.run (call.procedure config)).1 = .error e) ∧
      (w.run (call.procedure config)).2.workloads = w.workloads

/-- In every state, whatever fails in it, the text that a stored object delivers is the one that was
submitted and has passed. -/
theorem input_gated (w : World) (config : EngineConfig) {call : ServiceCall} {taskName : String}
    {text : Option String} (h : call.submission? = some (taskName, text)) :
    w.InputGated config call taskName text := by
  have hstored : (w.run (call.procedure config)).2.workloads ≠ w.workloads →
      w.Admits taskName text ∧ ∃ spec,
        w.workloads.Stored spec call (w.run (call.procedure config)).2.workloads ∧
          spec.Delivers taskName text := by
    intro hchanged
    rcases gates_call w config h with ⟨hadmits, hsame | hobject⟩ | ⟨hsame, -⟩
    · exact absurd hsame hchanged
    · exact ⟨hadmits, hobject⟩
    · exact absurd hsame hchanged
  refine ⟨hstored, fun hchanged hblank task schema htask hschema => ?_, fun hrefused => ?_⟩
  · obtain ⟨⟨admitted, runner, hadmitted, -, hpasses⟩, -⟩ := hstored hchanged
    rw [htask] at hadmitted
    cases hadmitted
    rw [hschema] at hpasses
    exact hpasses.accepts_empty hblank
  · rcases gates_call w config h with ⟨hadmits, -⟩ | ⟨hsame, herror⟩
    · exact absurd hadmits hrefused
    · exact ⟨herror, hsame⟩

/-- The launch of a greeting with input. -/
def greetBob : ServiceCall := .createJob ⟨"alice", "local"⟩ "hello" (some "[\"bob\"]")

/-- The launch of a greeting stores its job, with its input. -/
theorem input_gated_greeting :
    greetBob.submission? = some ("hello", some "[\"bob\"]") ∧
      ((World.after .standard {} greeting).run (greetBob.procedure .standard)).2.workloads.mutations =
        (World.after .standard {} greeting).workloads.mutations + 1 ∧
      (World.after .standard {} greeting).InputGated .standard greetBob "hello"
        (some "[\"bob\"]") :=
  ⟨rfl, by decide +kernel, input_gated _ .standard rfl⟩

end World

end TaskEngine
