import TaskEngine.Memory.Session
import TaskEngine.Proofs.Run
import TaskEngine.Proofs.Simulator

/-!
# Histories of the orchestrator in memory

Three things happen to the orchestrator: a call is answered, the jobs to come get another script,
and their names another completion. A history lists what has happened, in order. A session has one
too, with an entry for every call that a procedure of the engine has put to the orchestrator.
-/

namespace TaskEngine

/-- Something that happens to the orchestrator. -/
inductive Happening where
  /-- A call gets a reply. -/
  | answered (call : WorkloadCall) (reply : Outcome call.Reply)
  /-- Jobs that are made from now on follow this script. -/
  | scripted (script : Script)
  /-- Names of jobs and pods that are made from now on are completed in this way. -/
  | renamed (job pod : Nat → NameSuffix)

/-- Whether a call creates, applies or removes an object. -/
def WorkloadCall.mutates : WorkloadCall → Bool
  | .createJob _ | .deleteJob _ => true
  | .applyCronJob .. | .deleteCronJob _ => true
  | .applyDeployment .. | .deleteDeployment _ => true
  | .getJob _ | .listJobs _ | .getCronJob _ | .listCronJobs _ => false
  | .getDeployment _ | .listDeployments _ | .listPods _ | .podLogs .. => false

namespace Happening

/-- An object was created, applied or removed. -/
def mutates : Happening → Bool
  | .answered call reply => call.mutates && reply.isOk
  | _ => false

/-- The status of the job of this name was read. -/
def reads (id : String) : Happening → Bool
  | .answered (.getJob name) reply => decide (name = id) && reply.isOk
  | _ => false

/-- The job of this name was removed. -/
def removes (id : String) : Happening → Bool
  | .answered (.deleteJob name) reply => decide (name = id) && reply.isOk
  | _ => false

/-- The script in force afterwards. -/
def inForce (script : Script) : Happening → Script
  | .scripted next => next
  | _ => script

/-- The script in force after a history that starts with the default one. -/
def scriptAfter (history : List Happening) : Script := history.foldl inForce {}

end Happening

namespace Simulator

/-! ## Steps -/

/-- What happens to the orchestrator takes it from one state to another. -/
inductive Takes (s : Simulator) : Happening → Simulator → Prop
  /-- A call is answered. -/
  | answered (now : Instant) (call : WorkloadCall) :
    Takes s (.answered call (s.answer now call).1) (s.answer now call).2
  /-- A call is made to fail. -/
  | refused (call : WorkloadCall) (e : EngineError) : Takes s (.answered call (.error e)) s
  /-- The script for new jobs changes. -/
  | scripted (script : Script) : Takes s (.scripted script) { s with script }
  /-- The completion of new names changes. -/
  | renamed (jobSuffix podSuffix : Nat → NameSuffix) :
    Takes s (.renamed jobSuffix podSuffix) { s with jobSuffix, podSuffix }

/-- A history takes the orchestrator from one state to another. -/
inductive Undergoes : Simulator → List Happening → Simulator → Prop
  | idle (s : Simulator) : Undergoes s [] s
  | step {s t u : Simulator} {happening : Happening} {history : List Happening}
    (first : s.Takes happening t) (rest : Undergoes t history u) :
    Undergoes s (happening :: history) u

/-- What a step does to the jobs. -/
inductive Effect (s : Simulator) : Happening → Simulator → Prop
  /-- A job is made under a free name. -/
  | made (now : Instant) (job : Cluster.Job) {name : String} (free : s.jobs.get? name = none) :
    Effect s (.answered (.createJob job) (.ok (s.made now job name).job)) (s.withJob now job name)
  /-- The status of a job is read. -/
  | read (now : Instant) {name : String} {j : SimulatedJob} (held : s.jobs.get? name = some j) :
    Effect s (.answered (.getJob name) (.ok (j.read now).job))
      { s with jobs := s.jobs.insert name (j.read now) }
  /-- A job is removed. -/
  | removed {name : String} {j : SimulatedJob} (held : s.jobs.get? name = some j) :
    Effect s (.answered (.deleteJob name) (.ok ())) (s.removeJob name)
  /-- The jobs are left alone. -/
  | other {happening : Happening} {t : Simulator} (jobs : t.jobs = s.jobs)
    (script : t.script = happening.inForce s.script)
    (mutations : t.mutations = s.mutations + if happening.mutates then 1 else 0)
    (reads : ∀ id, happening.reads id = false) (removes : ∀ id, happening.removes id = false) :
    Effect s happening t

variable {s t u : Simulator} {happening : Happening}

/-- A call without success leaves everything as it was. -/
theorem effect_of_error (s : Simulator) (call : WorkloadCall) (e : EngineError) :
    s.Effect (.answered call (.error e)) s := by
  have hmutates : (Happening.answered call (.error e)).mutates = false := by
    simp [Happening.mutates, Except.isOk, Except.toBool]
  refine .other rfl rfl (by rw [hmutates]; rfl) (fun id => ?_) fun id => ?_
  · cases call <;> simp [Happening.reads, Except.isOk, Except.toBool]
  · cases call <;> simp [Happening.removes, Except.isOk, Except.toBool]

/-- A call that neither reads a status nor changes anything leaves everything as it was. -/
theorem effect_of_look {call : WorkloadCall} (reply : Outcome call.Reply)
    (hmutates : call.mutates = false) (hread : ∀ name, call ≠ .getJob name) :
    s.Effect (.answered call reply) s := by
  refine .other rfl rfl ?_ (fun id => ?_) fun id => ?_
  · simp [Happening.mutates, hmutates]
  · cases call <;> first | rfl | exact absurd rfl (hread _)
  · cases call <;> first | rfl | cases hmutates

/-- A successful write of something else than a job counts. -/
theorem effect_of_write {call : WorkloadCall} {reply : Outcome call.Reply}
    (hok : reply.isOk = true) (hmutates : call.mutates = true)
    (hcreate : ∀ job, call ≠ .createJob job) (hdelete : ∀ name, call ≠ .deleteJob name)
    (hjobs : t.jobs = s.jobs) (hscript : t.script = s.script)
    (hmutations : t.mutations = s.mutations + 1) : s.Effect (.answered call reply) t := by
  refine .other hjobs hscript ?_ (fun id => ?_) fun id => ?_
  · simpa [Happening.mutates, hok, hmutates] using hmutations
  · cases call <;> first | rfl | cases hmutates
  · cases call <;> first | rfl | exact absurd rfl (hdelete _)

/-- The effect of an answer on the jobs. -/
theorem effect_answer (s : Simulator) (now : Instant) (call : WorkloadCall) :
    s.Effect (.answered call (s.answer now call).1) (s.answer now call).2 := by
  cases call with
  | createJob job =>
    simp only [answer, createJob_eq]
    cases s.jobName job.metadata with
    | error e => exact effect_of_error s _ e
    | ok name =>
      simp only [Outcome.ok_bind]
      cases htaken : s.jobs.contains name with
      | true => exact effect_of_error s _ _
      | false => exact .made now job (Dict.contains_eq_false_iff.mp htaken)
  | getJob name =>
    simp only [answer, find]
    cases hget : s.jobs.get? name with
    | none => exact effect_of_error s _ _
    | some j => exact .read now hget
  | deleteJob name =>
    simp only [answer, find]
    cases hget : s.jobs.get? name with
    | none => exact effect_of_error s _ _
    | some j => exact .removed hget
  | applyCronJob object mode =>
    simp only [answer]
    cases store s.cronJobs WorkloadCall.cronJobResource object.metadata object mode with
    | error e => exact effect_of_error s _ e
    | ok cronJobs => exact effect_of_write rfl rfl (by simp) (by simp) rfl rfl rfl
  | deleteCronJob name =>
    simp only [answer, find]
    cases s.cronJobs.get? name with
    | none => exact effect_of_error s _ _
    | some object => exact effect_of_write rfl rfl (by simp) (by simp) rfl rfl rfl
  | applyDeployment object mode =>
    simp only [answer]
    cases store s.deployments WorkloadCall.deploymentResource object.metadata object mode with
    | error e => exact effect_of_error s _ e
    | ok deployments => exact effect_of_write rfl rfl (by simp) (by simp) rfl rfl rfl
  | deleteDeployment name =>
    simp only [answer, find]
    cases s.deployments.get? name with
    | none => exact effect_of_error s _ _
    | some object => exact effect_of_write rfl rfl (by simp) (by simp) rfl rfl rfl
  | listJobs | getCronJob | listCronJobs | getDeployment | listDeployments | listPods | podLogs =>
    exact effect_of_look _ rfl (by simp)

/-- Whatever happens has its effect. -/
theorem Takes.effect (h : s.Takes happening t) : s.Effect happening t := by
  cases h with
  | answered now call => exact effect_answer s now call
  | refused call e => exact effect_of_error s call e
  | scripted | renamed => exact .other rfl rfl rfl (fun _ => rfl) fun _ => rfl

/-! ## Histories -/

variable {history later : List Happening}

/-- A single step is a history. -/
theorem Takes.undergoes (h : s.Takes happening t) : s.Undergoes [happening] t := .step h (.idle t)

/-- One history after the other. -/
theorem Undergoes.append (hfirst : s.Undergoes history t) (hlater : t.Undergoes later u) :
    s.Undergoes (history ++ later) u := by
  induction hfirst with
  | idle s => exact hlater
  | step first rest ih => exact .step first (ih hlater)

/-- The script that new jobs follow is the one that was set last. -/
theorem Undergoes.script (h : s.Undergoes history t) :
    t.script = history.foldl Happening.inForce s.script := by
  induction h with
  | idle s => rfl
  | step first rest ih =>
    rw [ih, List.foldl_cons]
    congr 1
    cases first.effect with
    | made | read | removed => rfl
    | other jobs script => exact script

/-- Every successful call that creates, applies or removes an object is counted, and no other. -/
theorem Undergoes.mutations (h : s.Undergoes history t) :
    t.mutations = s.mutations + history.countP Happening.mutates := by
  induction h with
  | idle s => rfl
  | @step s t u happening history first rest ih =>
    have hstep : t.mutations = s.mutations + if happening.mutates then 1 else 0 := by
      cases first.effect with
      | made | read | removed => rfl
      | other jobs script mutations => exact mutations
    rw [ih, hstep, List.countP_cons]
    omega

end Simulator

/-! ## Histories of sessions -/

/-- What a reply means to the orchestrator. -/
def Request.happenings : (r : Request) → r.Reply → List Happening
  | .workloads call, reply => [.answered call reply]
  | .catalog _, _ | .secrets _, _ | .record _, _ | .count _, _ | .clock, _ | .sleepUntil _, _ => []

namespace World

variable {α : Type}

/-- What happens to the orchestrator while a procedure runs. -/
def happenings (w : World) : Procedure α → List Happening
  | .done _ => []
  | .ask r next =>
    r.happenings (answer r w).1 ++ (answer r w).2.happenings (next (answer r w).1)

/-- What an event means to the orchestrator. -/
def eventHistory (config : EngineConfig) (w : World) : SessionEvent → List Happening
  | .call call => w.happenings (call.procedure config)
  | .script script => [.scripted script]
  | .suffixes jobSuffix podSuffix => [.renamed jobSuffix podSuffix]
  | .elapse _ | .fail _ => []

/-- What happens to the orchestrator during a session. -/
def history (config : EngineConfig) : World → List SessionEvent → List Happening
  | _, [] => []
  | w, event :: events =>
    w.eventHistory config event ++ history config (w.step config event).2 events

theorem undergoes_answer (w : World) (r : Request) :
    w.workloads.Undergoes (r.happenings (answer r w).1) (answer r w).2.workloads := by
  cases r with
  | catalog call | secrets call =>
    simp only [answer, guarded]
    split <;> exact .idle _
  | workloads call =>
    simp only [answer, guarded]
    split
    · exact (Simulator.Takes.refused call _).undergoes
    · exact (Simulator.Takes.answered (Instant.ofMillis w.now) call).undergoes
  | record | count | clock | sleepUntil => exact .idle _

/-- A run of a procedure takes the orchestrator through what happens meanwhile. -/
theorem undergoes_run (w : World) (procedure : Procedure α) :
    w.workloads.Undergoes (w.happenings procedure) (w.run procedure).2.workloads := by
  induction procedure generalizing w with
  | done result => exact .idle _
  | ask r next ih => exact (w.undergoes_answer r).append (ih _ _)

theorem undergoes_step (config : EngineConfig) (w : World) (event : SessionEvent) :
    w.workloads.Undergoes (w.eventHistory config event) (w.step config event).2.workloads := by
  cases event with
  | call call => exact w.undergoes_run (call.procedure config)
  | elapse millis => exact .idle _
  | script script => exact (Simulator.Takes.scripted script).undergoes
  | fail call => exact .idle _
  | suffixes jobSuffix podSuffix =>
    exact (Simulator.Takes.renamed jobSuffix podSuffix).undergoes

/-- A session takes the orchestrator through its history. -/
theorem undergoes_after (config : EngineConfig) (w : World) (events : List SessionEvent) :
    w.workloads.Undergoes (w.history config events) (w.after config events).workloads := by
  induction events generalizing w with
  | nil => exact .idle _
  | cons event events ih => exact (undergoes_step config w event).append (ih _)

end World

end TaskEngine
