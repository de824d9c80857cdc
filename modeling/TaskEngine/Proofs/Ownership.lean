import TaskEngine.Proofs.Integrity
import TaskEngine.Proofs.OwnerSelection

/-!
# Results of jobs by owner

Every pod carries the labels of the job that it belongs to, so a selector that names an owner finds
pods of that owner's jobs only. Logs and results are read from pods and stay with the owner. The
status is read by the name of the job alone: for a job that has not ended it is shown to anyone,
with an empty output.
-/

namespace TaskEngine

open Engine

namespace Stores

/-! ## The invariant -/

/-- Jobs are found by their names, and pods by the labels of their jobs. -/
structure Labelled (s : Stores) : Prop where
  /-- A job is stored under its name, which can stand in a selector. -/
  job : ∀ id j, s.workloads.jobs.get? id = some j →
    Text.IsPlain id ∧ j.job.metadata.name = some id
  /-- A pod has the labels of a job and the name of that job. -/
  pod : ∀ name pod, s.workloads.pods.get? name = some pod →
    ∃ id j labels, s.workloads.jobs.get? id = some j ∧ j.job.metadata.labels = some labels ∧
      pod.metadata.labels = some (labels.insert Label.job id)

theorem labelled_empty : (World.stores {}).Labelled where
  job := by simp [World.stores]
  pod := by simp [World.stores]

variable {s t : Stores}

/-- Pods of jobs whose metadata is kept keep their labels. -/
theorem Labelled.of_kept (h : s.Labelled)
    (hjob : ∀ id j, t.workloads.jobs.get? id = some j →
      ∃ old, s.workloads.jobs.get? id = some old ∧ j.job.metadata = old.job.metadata)
    (hpod : ∀ name pod, t.workloads.pods.get? name = some pod →
      s.workloads.pods.get? name = some pod ∧
        ∀ id old, s.workloads.jobs.get? id = some old →
          pod.metadata.labels.bind (·.get? Label.job) = some id →
          ∃ j, t.workloads.jobs.get? id = some j ∧ j.job.metadata = old.job.metadata) :
    t.Labelled where
  job id j hj := by
    obtain ⟨old, hold, hsame⟩ := hjob id j hj
    rw [hsame]
    exact h.job id old hold
  pod name pod hget := by
    obtain ⟨hold, hkept⟩ := hpod name pod hget
    obtain ⟨id, j, labels, hj, hlabels, hpodLabels⟩ := h.pod name pod hold
    obtain ⟨j', hj', hsame⟩ := hkept id j hj (by simp [hpodLabels])
    exact ⟨id, j', labels, hj', hsame ▸ hlabels, hpodLabels⟩

/-- Reading statuses keeps all labels. -/
theorem Labelled.polled (h : s.Labelled) (hpolled : s.Polled t) : t.Labelled := by
  have hmetadata : ∀ {j j' : SimulatedJob}, j.fixed = j'.fixed → j.job.metadata = j'.job.metadata :=
    fun hfixed => congrArg (·.1) hfixed
  refine h.of_kept (fun id j hj => ?_)
    fun name pod hpod => ⟨hpolled.pods ▸ hpod, fun id old hold _ => ?_⟩
  · have hjobs := hpolled.jobs id
    rw [hj, Option.map_some] at hjobs
    obtain ⟨old, hold, hfixed⟩ := Option.map_eq_some_iff.mp hjobs.symm
    exact ⟨old, hold, hmetadata hfixed.symm⟩
  · have hjobs := hpolled.jobs id
    rw [hold, Option.map_some] at hjobs
    obtain ⟨j, hj, hfixed⟩ := Option.map_eq_some_iff.mp hjobs
    exact ⟨j, hj, hmetadata hfixed⟩

/-- Removing a job with its pods leaves no pod without a job. -/
theorem Labelled.removed (h : s.Labelled) {id : String} {j : SimulatedJob}
    (hj : s.workloads.jobs.get? id = some j) :
    Labelled { s with workloads := s.workloads.removeJob id } := by
  have hplain := (h.job id j hj).1
  refine h.of_kept (fun other j' hj' => ⟨j', Dict.get?_of_erase hj', rfl⟩) fun name pod hpod => ?_
  have hget := Dict.get?_foldl_erase s.workloads.pods (s.workloads.podsOf id) name
  have hpod' : (List.foldl Dict.erase s.workloads.pods (s.workloads.podsOf id)).get? name =
    some pod := hpod
  rw [hpod'] at hget
  split at hget
  · cases hget
  · rename_i hother
    refine ⟨hget.symm, fun other old hold hlabel => ⟨old, ?_, rfl⟩⟩
    have hne : id ≠ other := by
      rintro rfl
      exact hother (Simulator.mem_podsOf.mpr
        ⟨pod, hget.symm, (accepts_podSelector hplain _).mpr hlabel⟩)
    change (s.workloads.jobs.erase id).get? other = some old
    rw [Dict.get?_erase, if_neg hne, hold]

/-- A launch makes a job and a pod with the same labels. -/
theorem Labelled.launched (h : s.Labelled) (hsound : s.Sound) {task owner : String}
    {jobSuffix podSuffix : NameSuffix} (hlaunched : s.Launched t task owner jobSuffix podSuffix) :
    t.Labelled := by
  obtain ⟨made, hjobs, hname, hlabels⟩ := hlaunched.jobs
  obtain ⟨newPod, hpods, hpodLabels⟩ := hlaunched.pods
  have hplain : Text.IsPlain (task ++ "-" ++ jobSuffix.text) := by
    obtain ⟨record, hrecord, -⟩ := hlaunched.held
    have htask := Name.isPlain_of_isLegal (hsound.legal task record hrecord)
    exact (htask.append (by decide)).append jobSuffix.isPlain_text
  have hold : ∀ {id j}, s.workloads.jobs.get? id = some j → t.workloads.jobs.get? id = some j := by
    intro id j hj
    rw [hjobs, Dict.get?_insert, if_neg, hj]
    rintro rfl
    rw [hlaunched.free] at hj
    cases hj
  refine ⟨fun id j hj => ?_, fun name pod hpod => ?_⟩
  · rw [hjobs] at hj
    exact Dict.forall_insert ⟨hplain, hname⟩ h.job id j hj
  · rw [hpods, Dict.get?_insert] at hpod
    split at hpod
    · cases hpod
      exact ⟨_, made, _, by rw [hjobs, Dict.get?_insert, if_pos rfl], hlabels, hpodLabels⟩
    · obtain ⟨id, j, labels, hj, hrest⟩ := h.pod name pod hpod
      exact ⟨id, j, labels, hold hj, hrest⟩

/-- Whatever happens keeps integrity and labels. -/
theorem Labelled.step (hstep : s.Step t) (h : s.Sound ∧ s.Labelled) : t.Sound ∧ t.Labelled := by
  refine ⟨h.1.step hstep, ?_⟩
  cases hstep with
  | polled hpolled => exact h.2.polled hpolled
  | launched made task owner jobSuffix podSuffix hlaunched hpolled =>
    exact (h.2.launched h.1 hlaunched).polled hpolled
  | changed target hchange =>
    cases hchange with
    | jobRemoval held => exact h.2.removed held
    | _ => exact ⟨h.2.job, h.2.pod⟩

end Stores

namespace World

variable {w : World}

/-! ## Pods of an owner -/

/-- The pods that are found for a job and an owner. -/
def podsOf (w : World) (id : String) (owner : Option String) : List Cluster.Pod :=
  Simulator.select w.workloads.pods (·.metadata) (podSelector id owner)

/-- A user finds no pods of a job that another one has launched. -/
theorem podsOf_eq_nil (h : w.stores.Labelled) {id owner : String} {j : SimulatedJob}
    (hj : w.workloads.jobs.get? id = some j) (howner : Text.IsPlain owner) (hne : owner ≠ "")
    (hforeign : j.job.metadata.label Label.owner ≠ owner) : w.podsOf id (some owner) = [] := by
  refine Simulator.select_eq_nil.mpr fun name pod hpod => ?_
  rw [← Bool.not_eq_true, accepts_podSelector_owner (h.job id j hj).1 hne howner.standsForItself]
  rintro ⟨hid, hlabel⟩
  obtain ⟨other, j', labels, hj', hlabels, hpodLabels⟩ := h.pod name pod hpod
  rw [hpodLabels, Option.bind_some, Dict.get?_insert, if_pos rfl, Option.some_inj] at hid
  subst hid
  cases hj.symm.trans hj'
  rw [hpodLabels, Option.bind_some, Dict.get?_insert, if_neg (by decide)] at hlabel
  exact hforeign (by simp [Cluster.Meta.label, hlabels, hlabel])

theorem run_listPods (selector : String) :
    w.run (Procedure.workloads (.listPods selector)) =
      (if w.failing.contains (WorkloadCall.listPods selector).name
        then .error (injected (WorkloadCall.listPods selector).name)
        else .ok (Simulator.select w.workloads.pods (·.metadata) selector), w) := by
  rw [run_workloads, guarded]
  cases w.failing.contains (WorkloadCall.listPods selector).name <;> rfl

/-- Looking for pods fails if there are none, and changes nothing. -/
theorem run_findPods (id : String) (owner : Option String) :
    w.run (findPods id owner) =
      (if w.failing.contains "list_pods" then .error (injected "list_pods")
        else if (w.podsOf id owner).isEmpty then .error (.notFound WorkloadCall.jobResource noPods)
        else .ok (w.podsOf id owner), w) := by
  rw [findPods, run_bind, run_listPods, podsOf, WorkloadCall.name]
  cases w.failing.contains "list_pods" with
  | true => rfl
  | false =>
    simp only [Bool.false_eq_true, if_false]
    split <;> rfl

/-- Where pods are found for an owner, the job is the owner's. -/
theorem owner_of_findPods (h : w.stores.Labelled) {id owner : String} {j : SimulatedJob}
    (hj : w.workloads.jobs.get? id = some j) (howner : Text.IsPlain owner) (hne : owner ≠ "")
    {pods : List Cluster.Pod} (hpods : (w.run (findPods id (some owner))).1 = .ok pods) :
    j.job.metadata.label Label.owner = owner := by
  by_contra hforeign
  rw [run_findPods, podsOf_eq_nil h hj howner hne hforeign] at hpods
  simp only [List.isEmpty_nil, if_true] at hpods
  split at hpods <;> cases hpods

/-- What succeeds after looking for pods has found some. -/
theorem findPods_of_bind {α : Type} {id : String} {owner : Option String}
    {next : List Cluster.Pod → Procedure α} {a : α}
    (h : (w.run (findPods id owner >>= next)).1 = .ok a) :
    ∃ pods, (w.run (findPods id owner)).1 = .ok pods := by
  rw [run_bind] at h
  rcases hrun : w.run (findPods id owner) with ⟨e | pods, v⟩
  · rw [hrun] at h
    cases h
  · exact ⟨pods, rfl⟩

/-! ## What users see -/

/-- The answers about a job that a user has launched, asked for by some owner. -/
structure OwnerOnly (w : World) (config : EngineConfig) (id owner launcher : String) : Prop where
  /-- A result is shown to its owner only. -/
  result : ∀ r, (w.run ((ServiceCall.getJob id (some owner)).procedure config)).1 =
    .ok (.result r) → r.summary.owner = owner
  /-- A log is shown to the owner of its job only. -/
  log : ∀ reply, (w.run ((ServiceCall.getJobLog id (some owner)).procedure config)).1 = .ok reply →
    launcher = owner
  /-- Data is shown to the owner of its job only. -/
  data : ∀ reply, (w.run ((ServiceCall.getJobData id (some owner)).procedure config)).1 =
    .ok reply → launcher = owner
  /-- To everyone else the job is not there. -/
  hidden : launcher ≠ owner →
    ∀ call ∈ [ServiceCall.getJob id (some owner), .getJobLog id (some owner),
      .getJobData id (some owner)],
      ∃ e, (w.run (call.procedure config)).1 = .error e ∧ e.isNotFound = true

/-- Nothing is collected where no pods are found. -/
theorem run_collectOutput_of_nil (hcalm : w.failing = []) {id : String} {owner : Option String}
    (hnone : w.podsOf id owner = []) :
    w.run (collectOutput id owner) = (.error (.notFound WorkloadCall.jobResource noPods), w) := by
  refine run_bind_of_error ?_ _
  rw [run_findPods, hcalm, hnone]
  rfl

/-- Reading the status of a job that is there. -/
theorem run_readStatus (hcalm : w.failing = []) {id : String} {j : SimulatedJob}
    (hj : w.workloads.jobs.get? id = some j) :
    w.run (Procedure.workloads (.getJob id)) = (.ok (j.read (Instant.ofMillis w.now)).job,
      { w with workloads := { w.workloads with
        jobs := w.workloads.jobs.insert id (j.read (Instant.ofMillis w.now)) } }) := by
  refine (run_workloads_of_calm w hcalm _).trans ?_
  simp only [Simulator.answer, Simulator.find, hj]
  rfl

/-- The status of a job is read before pods are looked for: where none are found, a job that has
ended is not there, and any other one is shown without output. -/
theorem run_getJob_of_nil (hcalm : w.failing = []) {id : String} {owner : Option String}
    {j : SimulatedJob} (hj : w.workloads.jobs.get? id = some j)
    (hname : j.job.metadata.name = some id) (hnone : w.podsOf id owner = []) :
    (w.run (getJob id owner)).1 =
      if (JobSummary.ofCluster (j.read (Instant.ofMillis w.now)).job).isFinished
      then .error (.notFound WorkloadCall.jobResource noPods)
      else .ok {
        summary := JobSummary.ofCluster (j.read (Instant.ofMillis w.now)).job
        stdout := "", data := none, error := none } := by
  generalize hread : j.read (Instant.ofMillis w.now) = read
  have hid : (JobSummary.ofCluster read.job).id = id := by
    have hmetadata : read.job.metadata = j.job.metadata :=
      hread ▸ congrArg (·.1) (j.fixed_read (Instant.ofMillis w.now))
    simp [JobSummary.ofCluster, hmetadata, hname]
  have hcollect := run_collectOutput_of_nil (w := { w with workloads := { w.workloads with
    jobs := w.workloads.jobs.insert id read } }) hcalm hnone
  rw [getJob, jobResult, run_bind_of_ok (run_readStatus hcalm hj), hread, assemble, hid, run_bind,
    run_attempt, hcollect]
  cases hfinished : (JobSummary.ofCluster read.job).isFinished <;> rfl

/-- What is put together about a job shows its summary. -/
theorem summary_of_assemble {job : Cluster.Job} {owner : Option String} {r : JobResult}
    (h : (w.run (assemble job owner)).1 = .ok r) : r.summary = JobSummary.ofCluster job := by
  rw [assemble, run_bind, run_attempt] at h
  rcases hcollect : w.run (collectOutput (JobSummary.ofCluster job).id owner) with ⟨e | output, v⟩
  · simp only [hcollect] at h
    split at h
    · cases h
      rfl
    · cases h
  · simp only [hcollect] at h
    cases h
    rfl

/-- The summary that is shown names the launcher. -/
theorem owner_of_getJob (hcalm : w.failing = []) {id : String} {owner : Option String}
    {j : SimulatedJob} (hj : w.workloads.jobs.get? id = some j) {r : JobResult}
    (hresult : (w.run (getJob id owner)).1 = .ok r) :
    r.summary.owner = j.job.metadata.label Label.owner := by
  rw [getJob, jobResult, run_bind_of_ok (run_readStatus hcalm hj)] at hresult
  rw [summary_of_assemble hresult]
  exact congrArg (·.1.label Label.owner) (j.fixed_read (Instant.ofMillis w.now))

/-- A log is shown to the owner of its job only, whatever fails. -/
theorem owner_of_logReply (h : w.stores.Labelled) (config : EngineConfig) {id owner : String}
    {j : SimulatedJob} (hj : w.workloads.jobs.get? id = some j) (howner : Text.IsPlain owner)
    (hne : owner ≠ "") {reply : ServiceReply}
    (hreply : (w.run ((ServiceCall.getJobLog id (some owner)).procedure config)).1 = .ok reply) :
    j.job.metadata.label Label.owner = owner := by
  rw [ServiceCall.procedure, run_map] at hreply
  obtain ⟨text, hlog, -⟩ := Outcome.map_eq_ok.mp hreply
  obtain ⟨pods, hpods⟩ := findPods_of_bind hlog
  exact owner_of_findPods h hj howner hne hpods

/-- Data is shown to the owner of its job only, whatever fails. -/
theorem owner_of_dataReply (h : w.stores.Labelled) (config : EngineConfig) {id owner : String}
    {j : SimulatedJob} (hj : w.workloads.jobs.get? id = some j) (howner : Text.IsPlain owner)
    (hne : owner ≠ "") {reply : ServiceReply}
    (hreply : (w.run ((ServiceCall.getJobData id (some owner)).procedure config)).1 = .ok reply) :
    j.job.metadata.label Label.owner = owner := by
  rw [ServiceCall.procedure, run_map, getJobData, collectOutput, Dialogue.bind_assoc] at hreply
  obtain ⟨data, hdata, -⟩ := Outcome.map_eq_ok.mp hreply
  obtain ⟨pods, hpods⟩ := findPods_of_bind hdata
  exact owner_of_findPods h hj howner hne hpods

/-- To anyone but its launcher, a job that has ended is not there, and so are the log and the data
of any job. -/
theorem hidden_of_foreign (h : w.stores.Labelled) (hcalm : w.failing = []) (config : EngineConfig)
    {id owner : String} {j : SimulatedJob} (hj : w.workloads.jobs.get? id = some j)
    (howner : Text.IsPlain owner) (hne : owner ≠ "")
    (hforeign : j.job.metadata.label Label.owner ≠ owner)
    (hended : (JobSummary.ofCluster (j.read (Instant.ofMillis w.now)).job).isFinished = true) :
    ∀ call ∈ [ServiceCall.getJob id (some owner), .getJobLog id (some owner),
      .getJobData id (some owner)],
      ∃ e, (w.run (call.procedure config)).1 = .error e ∧ e.isNotFound = true := by
  have hnone := podsOf_eq_nil h hj howner hne hforeign
  have hcollect := run_collectOutput_of_nil hcalm hnone
  have hfind : w.run (findPods id (some owner)) =
      (.error (.notFound WorkloadCall.jobResource noPods), w) := by
    rw [run_findPods, hcalm, hnone]
    rfl
  intro call hcall
  refine ⟨.notFound WorkloadCall.jobResource noPods, ?_, rfl⟩
  simp only [List.mem_cons, List.not_mem_nil, or_false] at hcall
  rcases hcall with rfl | rfl | rfl
  · rw [ServiceCall.procedure, run_map, run_getJob_of_nil hcalm hj (h.job id j hj).2 hnone,
      if_pos hended]
    rfl
  · rw [ServiceCall.procedure, run_map, getJobLog, run_bind_of_error hfind]
    rfl
  · rw [ServiceCall.procedure, run_map, getJobData, run_bind_of_error hcollect]
    rfl

/-- What is asked about a job is answered to its owner only, provided that everyone else asks once
it has ended. -/
theorem ownerOnly_iff (h : w.stores.Labelled) (hcalm : w.failing = []) (config : EngineConfig)
    {id owner : String} {j : SimulatedJob} (hj : w.workloads.jobs.get? id = some j)
    (howner : Text.IsPlain owner) (hne : owner ≠ "") :
    w.OwnerOnly config id owner (j.job.metadata.label Label.owner) ↔
      j.job.metadata.label Label.owner = owner ∨
        (JobSummary.ofCluster (j.read (Instant.ofMillis w.now)).job).isFinished = true := by
  have hname := (h.job id j hj).2
  constructor
  · intro honly
    by_contra hboth
    obtain ⟨hforeign, hrunning⟩ := not_or.mp hboth
    have hshown := run_getJob_of_nil hcalm hj hname (podsOf_eq_nil h hj howner hne hforeign)
    rw [if_neg hrunning] at hshown
    have howned := honly.result _ (by rw [ServiceCall.procedure, run_map, hshown]; rfl)
    exact hforeign ((owner_of_getJob hcalm hj hshown).symm.trans howned)
  · intro hcondition
    refine ⟨fun r hr => ?_, fun _ => owner_of_logReply h config hj howner hne,
      fun _ => owner_of_dataReply h config hj howner hne, fun hforeign => ?_⟩
    · rw [ServiceCall.procedure, run_map] at hr
      obtain ⟨r', hr', hreply⟩ := Outcome.map_eq_ok.mp hr
      cases hreply
      rw [owner_of_getJob hcalm hj hr']
      rcases hcondition with howned | hended
      · exact howned
      · by_contra hforeign
        have hhidden := run_getJob_of_nil hcalm hj hname (podsOf_eq_nil h hj howner hne hforeign)
        rw [if_pos hended, hr'] at hhidden
        cases hhidden
    · exact hidden_of_foreign h hcalm config hj howner hne hforeign
        (hcondition.resolve_left hforeign)

/-- Along a session, a job that has ended is answered for to its owner only. One that has not is
shown to everyone, with an empty output. -/
theorem answered_to_owner_iff (config : EngineConfig) (events : List SessionEvent)
    {id owner : String} {j : SimulatedJob}
    (hj : (World.after config {} events).workloads.jobs.get? id = some j)
    (howner : Text.IsPlain owner) (hne : owner ≠ "") :
    (World.after config {} events).calm.OwnerOnly config id owner
        (j.job.metadata.label Label.owner) ↔
      j.job.metadata.label Label.owner = owner ∨
        (JobSummary.ofCluster (j.read
          (Instant.ofMillis (World.after config {} events).now)).job).isFinished = true := by
  have hlabelled := (stores_after ⟨Stores.sound_empty, Stores.labelled_empty⟩ Stores.Labelled.step
    config events).2
  exact ownerOnly_iff (w := (World.after config {} events).calm) hlabelled rfl config hj howner hne

/-- The session in which a job of the greeting is launched that never ends. -/
def waiting : List SessionEvent :=
  greeting ++ [.script .hanging, .call (.createJob ⟨"alice", "local"⟩ "hello" none)]

/-- What another user is shown of the job that never ends. -/
def shownToOthers : JobResult where
  summary := {
    id := "hello-00001", owner := "alice", startTime := some (.ofMillis 0), completionTime := none
    failed := 0, completed := 0, state := .running }
  stdout := ""
  data := none
  error := none

/-- The job that never ends is not hidden from another user. -/
theorem not_ownerOnly_waiting :
    ((World.after .standard {} waiting).workloads.jobs.get? "hello-00001").map
        (·.job.metadata.label Label.owner) = some "alice" ∧
      (((World.after .standard {} waiting).calm.run
        ((ServiceCall.getJob "hello-00001" (some "bob")).procedure .standard)).1 =
          .ok (.result shownToOthers)) ∧
      ¬ (World.after .standard {} waiting).calm.OwnerOnly .standard "hello-00001" "bob"
        "alice" := by
  have hshown : ((World.after .standard {} waiting).calm.run
      ((ServiceCall.getJob "hello-00001" (some "bob")).procedure .standard)).1 =
        .ok (.result shownToOthers) := by
    decide +kernel
  refine ⟨by decide +kernel, hshown, fun honly => ?_⟩
  have howner : shownToOthers.summary.owner = "bob" := honly.result _ hshown
  exact absurd howner (by decide)

/-- To its launcher the job that never ends is answered for as it should be. -/
theorem ownerOnly_waiting :
    ∃ j, (World.after .standard {} waiting).workloads.jobs.get? "hello-00001" = some j ∧
      (World.after .standard {} waiting).calm.OwnerOnly .standard "hello-00001" "alice"
        (j.job.metadata.label Label.owner) := by
  have hthere : ((World.after .standard {} waiting).workloads.jobs.get? "hello-00001").isSome =
      true := by
    decide +kernel
  obtain ⟨j, hj⟩ := Option.isSome_iff_exists.mp hthere
  refine ⟨j, hj, (answered_to_owner_iff .standard waiting hj (by decide) (by decide)).mpr (.inl ?_)⟩
  have hlabel : ((World.after .standard {} waiting).workloads.jobs.get? "hello-00001").map
      (·.job.metadata.label Label.owner) = some "alice" := by
    decide +kernel
  rw [hj] at hlabel
  exact Option.some.inj hlabel

end World

end TaskEngine
