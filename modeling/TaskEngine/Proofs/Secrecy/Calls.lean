import TaskEngine.Proofs.Engine.Reads
import TaskEngine.Proofs.Secrecy.Secrets

/-!
# Calls in two runs

Every operation of the service is alike itself, and operations that submit secret values are alike
if the values are put to the same use. The token of a runner is read at a launch only, and goes
from there into the compiled object and nowhere else.
-/

namespace TaskEngine

open Engine

namespace Procedure

/-! ## Loading -/

theorem Alike.loadRunner (name : String) :
    Alike Eq (loadRunner name) (Engine.loadRunner name) := by
  refine (Alike.catalog (.get name)).bind fun found _ hsame => ?_
  cases hsame
  cases found with
  | none => exact .fail _
  | some record =>
    dsimp only
    split
    · exact .pure rfl
    · exact .fail _

theorem Alike.loadTask (name : String) : Alike Eq (loadTask name) (Engine.loadTask name) := by
  refine (Alike.catalog (.get name)).bind fun found _ hsame => ?_
  cases hsame
  cases found with
  | none => exact .fail _
  | some record =>
    dsimp only
    split
    · exact .lift (.refl (fun _ => rfl) _)
    · exact .fail _

/-- A preparation depends on the token of the runner in its token only. -/
theorem Alike.prepare (taskName : String) (vars : Option String) :
    Alike (fun a b => b = { a with token := b.token }) (prepare taskName vars)
      (Engine.prepare taskName vars) := by
  refine (Alike.loadTask taskName).bind fun task _ hsame => ?_
  cases hsame
  refine (Alike.loadRunner task.runner).bind fun runner _ hsame => ?_
  cases hsame
  dsimp only
  split
  · exact (Alike.count _).bind fun _ _ _ => .fail _
  · exact (Alike.readSecret _).bind fun _ _ _ => .pure rfl

/-! ## Output of jobs -/

theorem Alike.findPods (jobId : String) (owner : Option String) :
    Alike (List.Forall₂ Cluster.Pod.Alike) (findPods jobId owner)
      (Engine.findPods jobId owner) := by
  refine (Alike.workloads (Simulator.answeredAlike_listPods _)).bind fun ps qs hpods => ?_
  have hempty : qs.isEmpty = ps.isEmpty := by cases hpods <;> rfl
  rw [hempty]
  split
  · exact .fail _
  · exact .pure hpods

theorem Alike.readLogs {ps qs : List Cluster.Pod} (h : List.Forall₂ Cluster.Pod.Alike ps qs) :
    Alike Eq (readLogs ps) (Engine.readLogs qs) := by
  have hsection (log : String × String) : Alike Eq (readSection log) (readSection log) :=
    (Alike.workloads (Simulator.answeredAlike_podLogs _ _)).bind fun _ _ hsame =>
      .pure (by rw [hsame])
  rw [Engine.readLogs, Engine.readLogs, startedLogs_eq h]
  refine (Alike.each hsection _).bind fun as bs hsections => .pure ?_
  rw [List.forall₂_eq_eq_eq] at hsections
  rw [hsections]

theorem Alike.collectOutput (jobId : String) (owner : Option String) :
    Alike Eq (collectOutput jobId owner) (Engine.collectOutput jobId owner) := by
  refine (Alike.findPods jobId owner).bind fun ps qs hpods => ?_
  refine (Alike.readLogs hpods).bind fun stdout _ hsame => ?_
  cases hsame
  refine (Alike.count _).bind fun _ _ _ => .pure ?_
  rw [ContainerFault.ofPods?_eq hpods]

theorem Alike.assemble {j k : Cluster.Job} (h : j.Alike k) (owner : Option String) :
    Alike Eq (assemble j owner) (Engine.assemble k owner) := by
  rw [Engine.assemble, Engine.assemble, JobSummary.ofCluster_eq h]
  dsimp only
  refine (Alike.collectOutput _ owner).attempt.bind fun x y hxy => ?_
  cases hxy with
  | ok hsame =>
    cases hsame
    exact .pure rfl
  | error e =>
    dsimp only
    split
    · exact .pure rfl
    · exact .fail _

/-! ## Waiting and launching -/

/-- Waits that ended in the same way with alike jobs. -/
def WaitedAlike (x y : WaitOutcome) : Prop := y.result = x.result ∧ x.job.Alike y.job

theorem Alike.pollRound (policy : PollPolicy) (jobId : String) (started due : Nat)
    {next next' : Nat → Cluster.Job → Procedure WaitOutcome}
    (hnext : ∀ woken {j k}, Cluster.Job.Alike j k →
      Alike WaitedAlike (next woken j) (next' woken k)) :
    Alike WaitedAlike (pollRound policy jobId started due next)
      (Engine.pollRound policy jobId started due next') := by
  have hread := Alike.workloads (Simulator.answeredAlike_getJob jobId)
  refine (Alike.sleepUntil due).bind fun woken _ hsame => hread.bind fun j k hjk => ?_
  cases hsame
  rw [JobSummary.ofCluster_eq hjk]
  split
  · exact .pure ⟨rfl, hjk⟩
  · refine Alike.clock.bind fun now _ hsame => ?_
    cases hsame
    split
    · exact .pure ⟨rfl, hjk⟩
    · exact hnext woken hjk

theorem Alike.pollFrom (policy : PollPolicy) (jobId : String) (started laterReads due : Nat) :
    Alike WaitedAlike (pollFrom policy jobId started laterReads due)
      (Engine.pollFrom policy jobId started laterReads due) := by
  induction laterReads generalizing due with
  | zero =>
    rw [pollFrom_zero]
    exact Alike.pollRound _ _ _ _ fun _ _ _ hjk => .pure ⟨rfl, hjk⟩
  | succ more ih =>
    rw [pollFrom_succ]
    exact Alike.pollRound _ _ _ _ fun _ _ _ _ => ih _

theorem Alike.waitMeasured (policy : PollPolicy) (jobId : String) :
    Alike WaitedAlike (waitMeasured policy jobId) (Engine.waitMeasured policy jobId) := by
  refine Alike.clock.bind fun started _ hsame => ?_
  cases hsame
  have hwait : Alike WaitedAlike (waitFor policy jobId) (waitFor policy jobId) :=
    Alike.clock.bind fun started _ hsame => by
      cases hsame
      exact Alike.pollFrom policy jobId started _ _
  refine hwait.attempt.bind fun x y hxy => ?_
  refine Alike.clock.bind fun ended _ hsame => ?_
  cases hsame
  cases hxy with
  | ok hxy =>
    dsimp only
    rw [hxy.1]
    exact (Alike.count _).bind fun _ _ _ => .pure hxy
  | error e => exact (Alike.count _).bind fun _ _ _ => .fail e

theorem Alike.launch (config : EngineConfig) (taskName owner : String) (vars : Option String) :
    Alike Eq (launch config taskName owner vars) (Engine.launch config taskName owner vars) := by
  refine (Alike.prepare taskName vars).bind fun ready other hready => ?_
  rw [hready]
  have hjob := (ready.workload owner).job_alike config other.token
  refine (Alike.workloads (Simulator.answeredAlike_createJob hjob)).bind fun j k hjk => ?_
  have hname : k.metadata = j.metadata := congrArg (·.metadata) hjk.rest
  dsimp only
  rw [hname]
  refine (Alike.count _).bind fun _ _ _ => ?_
  split
  · refine (Alike.waitMeasured _ _).bind fun x y hxy => ?_
    refine (Alike.assemble hxy.2 _).bind fun result _ hsame => ?_
    cases hsame
    exact .pure rfl
  · exact .pure rfl

theorem Alike.applyCronJob (config : EngineConfig) (c : CronJob) (mode : WriteMode) :
    Alike Eq (applyCronJob config c mode) (Engine.applyCronJob config c mode) := by
  refine (Alike.lift (.refl (fun _ => rfl) c.validate)).bind fun _ _ _ => ?_
  refine (Alike.prepare _ _).bind fun ready other hready => ?_
  rw [hready]
  have hobject := (ready.workload c.owner).cronJob_alike config other.token c.name
    (Text.trim c.schedule) c.disabled
  refine (Alike.workloads (Simulator.answeredAlike_applyCronJob hobject mode)).bind
    fun a b hab => ?_
  refine (Alike.count _).bind fun _ _ _ => .pure ?_
  rw [CronJob.ofCluster_eq hab]

theorem Alike.applyDeployment (config : EngineConfig) (d : Deployment) (mode : WriteMode) :
    Alike Eq (applyDeployment config d mode) (Engine.applyDeployment config d mode) := by
  refine (Alike.lift (.refl (fun _ => rfl) d.validate)).bind fun _ _ _ => ?_
  refine (Alike.prepare _ _).bind fun ready other hready => ?_
  rw [hready]
  have hobject := (ready.workload d.owner).deployment_alike config other.token d.name d.replicas
  refine (Alike.workloads (Simulator.answeredAlike_applyDeployment hobject mode)).bind
    fun a b hab => ?_
  refine (Alike.count _).bind fun _ _ _ => .pure ?_
  rw [Deployment.ofCluster_eq hab]

/-! ## Operations on workloads -/

/-- A listing shows the same of alike objects. -/
theorem Alike.listMerged {α β : Type} {R : α → α → Prop} (scope : AuthorizedIds)
    {list : String → Procedure (List α)}
    (hlist : ∀ selector, Alike (List.Forall₂ R) (list selector) (list selector)) {view : α → β}
    (hview : ∀ a b, R a b → view b = view a) (name : β → String) :
    Alike Eq (listMerged scope list view name) (Engine.listMerged scope list view name) := by
  refine (Alike.each hlist _).bind fun batches others hbatches => .pure ?_
  have hviews : others.flatten.map view = batches.flatten.map view := by
    rw [← List.forall₂_eq_eq_eq, List.forall₂_map_left_iff, List.forall₂_map_right_iff]
    exact (List.rel_flatten hbatches).flip.imp fun b a hab => hview a b hab
  rw [hviews]

theorem Alike.getJob (id : String) (owner : Option String) :
    Alike Eq (getJob id owner) (Engine.getJob id owner) :=
  (Alike.workloads (Simulator.answeredAlike_getJob id)).bind fun _ _ hjk => .assemble hjk owner

theorem Alike.getJobLog (id : String) (owner : Option String) :
    Alike Eq (getJobLog id owner) (Engine.getJobLog id owner) :=
  (Alike.findPods id owner).bind fun _ _ hpods => .readLogs hpods

theorem Alike.getJobData (id : String) (owner : Option String) :
    Alike Eq (getJobData id owner) (Engine.getJobData id owner) :=
  (Alike.collectOutput id owner).bind fun _ _ hsame => .pure (by rw [hsame])

theorem Alike.listJobs (scope : AuthorizedIds) :
    Alike Eq (listJobs scope) (Engine.listJobs scope) :=
  .listMerged scope (fun selector => .workloads (Simulator.answeredAlike_listJobs selector))
    (fun _ _ hjk => JobSummary.ofCluster_eq hjk) _

theorem Alike.listCronJobs (scope : AuthorizedIds) :
    Alike Eq (listCronJobs scope) (Engine.listCronJobs scope) :=
  .listMerged scope (fun selector => .workloads (Simulator.answeredAlike_listCronJobs selector))
    (fun _ _ hcd => CronJob.ofCluster_eq hcd) _

theorem Alike.listDeployments (scope : AuthorizedIds) :
    Alike Eq (listDeployments scope) (Engine.listDeployments scope) :=
  .listMerged scope (fun selector => .workloads (Simulator.answeredAlike_listDeployments selector))
    (fun _ _ hcd => Deployment.ofCluster_eq hcd) _

theorem Alike.getCronJob (name : String) :
    Alike Eq (getCronJob name) (Engine.getCronJob name) :=
  (Alike.workloads (Simulator.answeredAlike_getCronJob name)).bind fun _ _ h =>
    .pure (CronJob.ofCluster_eq h).symm

theorem Alike.getDeployment (name : String) :
    Alike Eq (getDeployment name) (Engine.getDeployment name) :=
  (Alike.workloads (Simulator.answeredAlike_getDeployment name)).bind fun _ _ h =>
    .pure (Deployment.ofCluster_eq h).symm

/-! ## Operations on runners -/

theorem Alike.listRunners (scope : AuthorizedIds) :
    Alike Eq (listRunners scope) (Engine.listRunners scope) := by
  rw [Engine.listRunners]
  split
  · exact .pure rfl
  · exact (Alike.catalog .list).bind fun _ _ hsame => .pure (by rw [hsame])

theorem Alike.getRunner (name : String) : Alike Eq (getRunner name) (Engine.getRunner name) := by
  refine (Alike.loadRunner name).bind fun runner _ hsame => ?_
  cases hsame
  refine (Alike.readSecret name).bind fun secret other hsecret => ?_
  have htoken : other.any (·.contains Runner.tokenKey) =
      secret.any (·.contains Runner.tokenKey) := by
    cases hsecret with
    | none => rfl
    | some h => exact (h.contains_eq Runner.tokenKey).symm
  rw [htoken]
  split
  · exact .pure rfl
  · exact .pure rfl

/-- Runners that differ in tokens put to the same use are written alike. -/
theorem Alike.writeRunner (runner : Runner) {token : Option String}
    (h : Option.Rel Secret.SameUse runner.token token) (mode : WriteMode) :
    Alike Eq (writeRunner runner mode) (Engine.writeRunner { runner with token } mode) := by
  obtain ⟨name, image, gitUrl, branch, stored⟩ := runner
  refine (Alike.lift (.refl (fun _ => rfl) _)).bind fun _ _ _ => ?_
  refine (Alike.catalog _).bind fun _ _ _ => ?_
  cases h with
  | none => exact .getRunner name
  | some huse =>
    refine (Alike.applySecret name ?_).bind fun _ _ _ => .getRunner name
    exact Dict.Alike.insert (.refl Secret.SameUse.refl ∅) Runner.tokenKey huse

theorem Alike.createRunner (principal : Principal) (runner : Runner) {token : Option String}
    (h : Option.Rel Secret.SameUse runner.token token) :
    Alike Eq (createRunner principal runner)
      (Engine.createRunner principal { runner with token }) :=
  .audited (.writeRunner runner h .create) ..

theorem Alike.updateRunner (principal : Principal) (runner : Runner) {token : Option String}
    (h : Option.Rel Secret.SameUse runner.token token) :
    Alike Eq (updateRunner principal runner)
      (Engine.updateRunner principal { runner with token }) :=
  .audited ((Alike.loadRunner runner.name).bind fun _ _ _ => .writeRunner runner h .update) ..

theorem Alike.deleteRunner (principal : Principal) (name : String) :
    Alike Eq (deleteRunner principal name) (Engine.deleteRunner principal name) := by
  refine Alike.audited ?_ ..
  refine (Alike.loadRunner name).bind fun _ _ _ => ?_
  refine (Alike.catalog .list).bind fun records _ hsame => ?_
  cases hsame
  split
  · exact .fail _
  · exact (Alike.catalog _).bind fun _ _ _ => .removeSecret name

/-! ## Operations on tasks -/

theorem Alike.listTasks (scope : AuthorizedIds) :
    Alike Eq (listTasks scope) (Engine.listTasks scope) := by
  rw [Engine.listTasks]
  split
  · exact .pure rfl
  · exact (Alike.catalog .list).bind fun _ _ hsame => .pure (by rw [hsame])

theorem Alike.getTask (name : String) : Alike Eq (getTask name) (Engine.getTask name) := by
  refine (Alike.loadTask name).bind fun task _ hsame => ?_
  cases hsame
  exact (Alike.redactedSecret name).bind fun _ _ hsame => .pure (by rw [hsame])

/-- The secret values of a task are merged alike if they are put to the same use. -/
theorem Alike.storeSecret (task : Task) {secret : Option Record}
    (h : Option.Rel (Dict.Alike Secret.SameUse) task.secret secret) (mode : WriteMode) :
    Alike Eq (World.storeSecret task mode) (World.storeSecret { task with secret } mode) := by
  obtain ⟨name, runner, command, synchronous, schema, stored⟩ := task
  cases h with
  | some huse => exact (Alike.applySecret name huse).bind fun _ _ _ => .pure rfl
  | none =>
    cases mode with
    | create => exact .pure rfl
    | update => exact .removeSecret name

/-- Tasks that differ in secret values put to the same use are written alike. -/
theorem Alike.writeTask (task : Task) {secret : Option Record}
    (h : Option.Rel (Dict.Alike Secret.SameUse) task.secret secret) (mode : WriteMode) :
    Alike Eq (writeTask task mode) (Engine.writeTask { task with secret } mode) := by
  rw [World.writeTask_eq, World.writeTask_eq]
  refine (Alike.lift (.refl (fun _ => rfl) _)).bind fun _ _ _ => ?_
  refine (Alike.lift (.refl (fun _ => rfl) _)).bind fun _ _ _ => ?_
  refine (Alike.loadRunner task.runner).bind fun _ _ _ => ?_
  refine (Alike.catalog _).bind fun _ _ _ => ?_
  exact (Alike.storeSecret task h mode).bind fun _ _ _ => .getTask task.name

theorem Alike.createTask (principal : Principal) (task : Task) {secret : Option Record}
    (h : Option.Rel (Dict.Alike Secret.SameUse) task.secret secret) :
    Alike Eq (createTask principal task) (Engine.createTask principal { task with secret }) :=
  .audited (.writeTask task h .create) ..

theorem Alike.updateTask (principal : Principal) (task : Task) {secret : Option Record}
    (h : Option.Rel (Dict.Alike Secret.SameUse) task.secret secret) :
    Alike Eq (updateTask principal task) (Engine.updateTask principal { task with secret }) :=
  .audited ((Alike.loadTask task.name).bind fun _ _ _ => .writeTask task h .update) ..

theorem Alike.deleteTask (principal : Principal) (name : String) :
    Alike Eq (deleteTask principal name) (Engine.deleteTask principal name) := by
  refine Alike.audited ?_ ..
  refine (Alike.loadTask name).bind fun _ _ _ => ?_
  refine (Alike.workloads (Simulator.answeredAlike_listCronJobs _)).bind fun cs ds hcronJobs => ?_
  cases hcronJobs with
  | cons hfirst _ =>
    have hmetadata := congrArg (·.metadata) hfirst.rest
    dsimp only at hmetadata ⊢
    rw [hmetadata]
    exact (Alike.fail (R := fun _ _ => False) _).bind fun _ _ hnever => hnever.elim
  | nil =>
    dsimp only
    refine (Alike.workloads (Simulator.answeredAlike_listDeployments _)).bind
      fun cs ds hdeployments => ?_
    cases hdeployments with
    | cons hfirst _ =>
      have hmetadata := congrArg (·.metadata) hfirst.rest
      dsimp only at hmetadata ⊢
      rw [hmetadata]
      exact (Alike.fail (R := fun _ _ => False) _).bind fun _ _ hnever => hnever.elim
    | nil => exact (Alike.catalog _).bind fun _ _ _ => .removeSecret name

theorem Alike.getSchema (name : String) : Alike Eq (getSchema name) (Engine.getSchema name) :=
  (Alike.loadTask name).bind fun _ _ hsame => .pure (by rw [hsame])

theorem Alike.updateSchema (principal : Principal) (name : String) (schema : Json) :
    Alike Eq (updateSchema principal name schema) (Engine.updateSchema principal name schema) := by
  refine Alike.audited ?_ ..
  refine (Alike.lift (.refl (fun _ => rfl) _)).bind fun _ _ _ => ?_
  refine (Alike.loadTask name).bind fun task _ hsame => ?_
  cases hsame
  exact (Alike.catalog _).bind fun _ _ _ => .pure rfl

theorem Alike.deleteSchema (principal : Principal) (name : String) :
    Alike Eq (deleteSchema principal name) (Engine.deleteSchema principal name) := by
  refine Alike.audited ?_ ..
  refine (Alike.loadTask name).bind fun task _ hsame => ?_
  cases hsame
  split
  · exact (Alike.catalog _).bind fun _ _ _ => .pure rfl
  · exact .pure rfl

/-! ## Operations on secrets -/

theorem Alike.ownerKind (name : String) : Alike Eq (ownerKind name) (Engine.ownerKind name) := by
  refine (Alike.catalog (.get name)).bind fun found _ hsame => ?_
  cases hsame
  cases found with
  | none => exact .fail _
  | some record =>
    dsimp only
    split
    · exact .pure rfl
    · split
      · exact .pure rfl
      · exact .fail _

theorem Alike.getSecret (name : String) : Alike Eq (getSecret name) (Engine.getSecret name) :=
  (Alike.ownerKind name).bind fun _ _ _ => (Alike.redactedSecret name).bind fun _ _ hsame =>
    .pure (by rw [hsame])

theorem Alike.changeSecret {α : Type} (principal : Principal) (action : AuditAction)
    (name : String) {change other : Procedure α} (h : Alike Eq change other) :
    Alike Eq (changeSecret principal action name change)
      (Engine.changeSecret principal action name other) := by
  refine (Alike.ownerKind name).attempt.bind fun x y hxy => ?_
  cases hxy with
  | ok hkind =>
    cases hkind
    exact .audited ((Alike.lift (.refl (fun _ => rfl) _)).bind fun _ _ _ => h) ..
  | error e => exact .audited ((Alike.lift (.refl (fun _ => rfl) _)).bind fun _ _ _ => h) ..

theorem Alike.updateSecret (principal : Principal) (name : String) {desired wanted : Record}
    (h : Dict.Alike Secret.SameUse desired wanted) :
    Alike Eq (updateSecret principal name desired)
      (Engine.updateSecret principal name wanted) := by
  refine .changeSecret principal _ name ?_
  exact (Alike.applySecret name h).bind fun _ _ _ => (Alike.redactedSecret name).bind
    fun _ _ hsame => .pure (by rw [hsame])

theorem Alike.deleteSecret (principal : Principal) (name : String) :
    Alike Eq (deleteSecret principal name) (Engine.deleteSecret principal name) :=
  .changeSecret principal _ name (.removeSecret name)

end Procedure

/-! ## Calls -/

/-- Calls that are the same but for secret values, which are put to the same use. -/
inductive ServiceCall.Alike : ServiceCall → ServiceCall → Prop
  | same (call : ServiceCall) : Alike call call
  | createRunner (principal : Principal) (runner : Runner) {token : Option String}
    (h : Option.Rel Secret.SameUse runner.token token) :
    Alike (.createRunner principal runner) (.createRunner principal { runner with token })
  | updateRunner (principal : Principal) (runner : Runner) {token : Option String}
    (h : Option.Rel Secret.SameUse runner.token token) :
    Alike (.updateRunner principal runner) (.updateRunner principal { runner with token })
  | createTask (principal : Principal) (task : Task) {secret : Option Record}
    (h : Option.Rel (Dict.Alike Secret.SameUse) task.secret secret) :
    Alike (.createTask principal task) (.createTask principal { task with secret })
  | updateTask (principal : Principal) (task : Task) {secret : Option Record}
    (h : Option.Rel (Dict.Alike Secret.SameUse) task.secret secret) :
    Alike (.updateTask principal task) (.updateTask principal { task with secret })
  | updateSecret (principal : Principal) (name : String) {desired wanted : Record}
    (h : Dict.Alike Secret.SameUse desired wanted) :
    Alike (.updateSecret principal name desired) (.updateSecret principal name wanted)

namespace Procedure

/-- Replies that show the same are the same. -/
theorem Alike.reply {α : Type} {p q : Procedure α} (h : Alike Eq p q) (f : α → ServiceReply) :
    Alike Eq (f <$> p) (f <$> q) :=
  h.map fun _ _ hsame => congrArg f hsame

/-- A call is alike itself. -/
theorem alike_call (config : EngineConfig) (call : ServiceCall) :
    Alike Eq (call.procedure config) (call.procedure config) := by
  cases call with
  | createRunner principal runner =>
    exact (Alike.createRunner principal runner (rel_refl Secret.SameUse.refl _)).reply _
  | updateRunner principal runner =>
    exact (Alike.updateRunner principal runner (rel_refl Secret.SameUse.refl _)).reply _
  | createTask principal task =>
    exact (Alike.createTask principal task (rel_refl (.refl Secret.SameUse.refl) _)).reply _
  | updateTask principal task =>
    exact (Alike.updateTask principal task (rel_refl (.refl Secret.SameUse.refl) _)).reply _
  | updateSecret principal name desired =>
    exact (Alike.updateSecret principal name (.refl Secret.SameUse.refl desired)).reply _
  | listRunners scope => exact (Alike.listRunners scope).reply _
  | getRunner name => exact (Alike.getRunner name).reply _
  | deleteRunner principal name => exact (Alike.deleteRunner principal name).reply _
  | listTasks scope => exact (Alike.listTasks scope).reply _
  | getTask name => exact (Alike.getTask name).reply _
  | deleteTask principal name => exact (Alike.deleteTask principal name).reply _
  | getSchema name => exact (Alike.getSchema name).reply _
  | updateSchema principal name schema =>
    exact (Alike.updateSchema principal name schema).reply _
  | deleteSchema principal name => exact (Alike.deleteSchema principal name).reply _
  | getSecret name => exact (Alike.getSecret name).reply _
  | deleteSecret principal name => exact (Alike.deleteSecret principal name).reply _
  | listJobs scope => exact (Alike.listJobs scope).reply _
  | createJob principal name vars =>
    exact (Alike.audited (.launch config name principal.name vars) ..).reply _
  | getJob id owner => exact (Alike.getJob id owner).reply _
  | getJobLog id owner => exact (Alike.getJobLog id owner).reply _
  | getJobData id owner => exact (Alike.getJobData id owner).reply _
  | deleteJob principal id =>
    exact (Alike.audited (.workloads (Simulator.answeredAlike_deleteJob id)) ..).reply _
  | listCronJobs scope => exact (Alike.listCronJobs scope).reply _
  | getCronJob name => exact (Alike.getCronJob name).reply _
  | createCronJob principal c => exact (Alike.audited (.applyCronJob config _ _) ..).reply _
  | updateCronJob principal c => exact (Alike.audited (.applyCronJob config _ _) ..).reply _
  | deleteCronJob principal name =>
    exact (Alike.audited (.workloads (Simulator.answeredAlike_deleteCronJob name)) ..).reply _
  | listDeployments scope => exact (Alike.listDeployments scope).reply _
  | getDeployment name => exact (Alike.getDeployment name).reply _
  | createDeployment principal d => exact (Alike.audited (.applyDeployment config _ _) ..).reply _
  | updateDeployment principal d => exact (Alike.audited (.applyDeployment config _ _) ..).reply _
  | deleteDeployment principal name =>
    exact (Alike.audited (.workloads (Simulator.answeredAlike_deleteDeployment name)) ..).reply _

/-- Calls that are alike are answered the same. -/
theorem alike_of_calls (config : EngineConfig) {call other : ServiceCall} (h : call.Alike other) :
    Alike Eq (call.procedure config) (other.procedure config) := by
  cases h with
  | same call => exact alike_call config call
  | createRunner principal runner h => exact (Alike.createRunner principal runner h).reply _
  | updateRunner principal runner h => exact (Alike.updateRunner principal runner h).reply _
  | createTask principal task h => exact (Alike.createTask principal task h).reply _
  | updateTask principal task h => exact (Alike.updateTask principal task h).reply _
  | updateSecret principal name h => exact (Alike.updateSecret principal name h).reply _

end Procedure

end TaskEngine
