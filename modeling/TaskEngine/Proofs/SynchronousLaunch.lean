import TaskEngine.Proofs.ManifestRoundTrip
import TaskEngine.Proofs.ResultProtocol
import TaskEngine.Proofs.ScriptedRuns

/-!
# Synchronous launches

The launch of a synchronous task makes a job under a fresh name, waits for it and puts together what
its pod has logged. The pod of the job is the only one that carries the fresh name, and each of its
started containers has a log, so the launch is answered with a result whatever the script of the run
says: with the outcome if the run is over in time, and as running otherwise.
-/

namespace TaskEngine

open Engine

/-! ## Logs of a scripted pod -/

/-- Every started container of a scripted pod has a log. -/
theorem Script.isSome_logs (s : Script) (podName jobName : String)
    (template : Cluster.PodTemplate) {container : String}
    (h : container ∈ startedContainers (s.pod podName jobName template)) :
    ((s.logs template).get? container).isSome = true := by
  cases hscheduled : s.unscheduled with
  | true => simp [startedContainers, pod, hscheduled, isStarted] at h
  | false =>
    simp only [logs, hscheduled, Bool.false_eq_true, if_false]
    refine Dict.isSome_get?_insertAll.mpr (.inr ?_)
    simp only [startedContainers, pod, List.mem_append, List.mem_filter] at h
    simpa using h.imp And.left And.left

/-- A pod that is put in place has its logs there. -/
theorem Simulator.isSome_logs_insertPod (s : Simulator) (name : String) (pod : Cluster.Pod)
    {logs : Dict String} {container : String} (h : (logs.get? container).isSome = true) :
    (((s.insertPod name pod logs).logs.get? name).bind (·.get? container)).isSome = true := by
  obtain ⟨text, htext⟩ := Option.isSome_iff_exists.mp h
  have hfilled : logs.isEmpty = false := by
    rw [← Bool.not_eq_true, Dict.isEmpty_iff]
    rintro rfl
    cases htext
  simp only [insertPod, hfilled, Bool.false_eq_true, if_false, Dict.get?_insert, if_true,
    Option.bind_some]
  exact Dict.isSome_get?_insertAll.mpr
    (.inr (List.mem_map_of_mem (f := Prod.fst) (Dict.mem_toList.mpr htext)))

/-! ## The pods of a job -/

/-- A selection with the plain name of an owner demands that name, unless it is empty. -/
theorem accepts_podSelector_of_isPlain {id owner : String} (hid : Text.IsPlain id)
    (howner : Text.IsPlain owner) (labels : Option Cluster.Labels) :
    Cluster.Selector.accepts (podSelector id (some owner)) labels = true ↔
      labels.bind (·.get? Label.job) = some id ∧
        (owner = "" ∨ labels.bind (·.get? Label.owner) = some owner) := by
  by_cases hne : owner = ""
  · subst hne
    have hwhole : podSelector id (some "") = podSelector id none := rfl
    rw [hwhole, accepts_podSelector hid]
    simp
  · rw [accepts_podSelector_owner hid hne howner.standsForItself]
    simp [hne]

namespace World

variable {w : World}

/-- A job that was made under a name that no pod carries has one pod, and all its logs. -/
theorem podsOf_withJob (config : EngineConfig) (launch : Workload) {id : String} {now : Instant}
    (hid : Text.IsPlain id) (howner : Text.IsPlain launch.owner)
    (hfree : ∀ name pod, w.workloads.pods.get? name = some pod →
      pod.metadata.labels.bind (·.get? Label.job) ≠ some id)
    {v : World} (hv : v.workloads = w.workloads.withJob now (launch.job config) id) :
    v.podsOf id (some launch.owner) ≠ [] ∧
      ∀ log ∈ startedLogs (v.podsOf id (some launch.owner)),
        (v.logOf log.1 log.2).isSome = true := by
  let template := ((launch.job config).spec.getD {}).template
  let made := w.workloads.script.pod (w.workloads.podName id) id template
  have hlabels : made.metadata.labels = some (launch.labels.insert Label.job id) := rfl
  have hstored : v.workloads.pods = w.workloads.pods.insert (w.workloads.podName id) made :=
    congrArg (·.pods) hv
  have haccepts : Cluster.Selector.accepts (podSelector id (some launch.owner))
      made.metadata.labels = true := by
    rw [accepts_podSelector_of_isPlain hid howner, hlabels, Option.bind_some, Option.bind_some,
      Dict.get?_insert, if_pos rfl, Dict.get?_insert, if_neg (by decide)]
    exact ⟨rfl, .inr (Label.owner_ofWorkload launch.owner launch.task.name)⟩
  have honly : ∀ pod ∈ v.podsOf id (some launch.owner), pod = made := by
    intro pod hmem
    obtain ⟨hvalue, hselected⟩ := List.mem_filter.mp hmem
    obtain ⟨name, hget⟩ := Dict.mem_values.mp hvalue
    have hcarries := ((accepts_podSelector_of_isPlain hid howner _).mp hselected).1
    rw [hstored, Dict.get?_insert] at hget
    split at hget
    · exact (Option.some.inj hget).symm
    · exact absurd hcarries (hfree name pod hget)
  refine ⟨List.ne_nil_of_mem (a := made) (List.mem_filter.mpr ⟨?_, haccepts⟩), ?_⟩
  · rw [hstored]
    exact Dict.mem_values.mpr ⟨_, (Dict.get?_insert ..).trans (if_pos rfl)⟩
  · intro log hlog
    obtain ⟨pod, hpod, hcontainer⟩ := List.mem_flatMap.mp hlog
    obtain ⟨container, hstarted, rfl⟩ := List.mem_map.mp hcontainer
    obtain rfl := honly pod hpod
    rw [logOf, hv]
    exact Simulator.isSome_logs_insertPod w.workloads (w.workloads.podName id) made
      (Script.isSome_logs _ _ _ _ hstarted)

/-! ## Steps of a launch -/

/-- What is put together of a job that has pods, where every started container has a log. -/
theorem run_assemble {job : Cluster.Job} {id : String} {owner : Option String}
    (hname : job.metadata.name = some id) (hcalm : w.failing = [])
    (hpods : w.podsOf id owner ≠ [])
    (hlogs : ∀ log ∈ startedLogs (w.podsOf id owner), (w.logOf log.1 log.2).isSome = true) :
    ∃ result metrics, w.run (assemble job owner) = (.ok result, { w with metrics }) ∧
      result.summary = JobSummary.ofCluster job := by
  have hid : (JobSummary.ofCluster job).id = id := by simp [JobSummary.ofCluster, hname]
  have hoffers : Offers answer w id owner (w.podsOf id owner)
      fun pod container => (w.logOf pod container).getD "" := by
    refine offers hcalm fun log hlog => ?_
    obtain ⟨text, htext⟩ := Option.isSome_iff_exists.mp (hlogs log hlog)
    rw [htext, Option.getD_some]
  have hcollect : ∃ output metrics, w.run (collectOutput id owner) =
      (.ok output, { w with metrics }) :=
    ⟨_, _, hoffers.run_collectOutput_counted hpods⟩
  obtain ⟨output, metrics, hoffered⟩ := hcollect
  refine ⟨⟨JobSummary.ofCluster job, output.stdout, output.data, output.error⟩, metrics, ?_, rfl⟩
  rw [assemble, hid, run_bind, run_attempt, hoffered]
  rfl

/-- Waiting for a job that was just made, and putting together what its pods have logged. -/
theorem run_waitMeasured_assemble {policy : PollPolicy} (hinterval : 0 < policy.interval)
    (hcalm : w.failing = []) {id : String} {owner : Option String} {j : SimulatedJob}
    (hj : w.workloads.jobs.get? id = some j) (hname : j.job.metadata.name = some id)
    (hcourse : j.Follows) (hunread : j.reads = 0) (hpods : w.podsOf id owner ≠ [])
    (hlogs : ∀ log ∈ startedLogs (w.podsOf id owner), (w.logOf log.1 log.2).isSome = true) :
    ∃ result k v,
      w.run (waitMeasured policy id >>= fun waited => assemble waited.job owner) =
        (.ok result, v) ∧
      v.workloads.jobs.get? id = some k ∧ result.summary = JobSummary.ofCluster k.job ∧
      k.Follows ∧ k.script = j.script ∧
      k.reads = j.script.readsUntil (policy.deadline ⌈/⌉ policy.interval + 1) := by
  obtain ⟨k, v, ⟨waited, hmeasured, hwaited⟩, hk, hcourse, hfixed, hreads⟩ :=
    run_waitMeasured hinterval hcalm hj hcourse hunread
  -- The wait only looks, so the pods and their logs are still there.
  have hpolled := polled_run (w := w) (onlyLooks_waitMeasured policy id)
  have hfailing := failing_run (w := w) (waitMeasured policy id)
  rw [hmeasured] at hpolled hfailing
  have hsamePods : v.podsOf id owner = w.podsOf id owner := by
    have hkept : v.workloads.pods = w.workloads.pods := hpolled.pods
    rw [podsOf, podsOf, hkept]
  have hsameLogs : v.logOf = w.logOf := by
    have hkept : v.workloads.logs = w.workloads.logs := hpolled.logs
    funext pod container
    rw [logOf, logOf, hkept]
  have hkname : k.job.metadata.name = some id := (congrArg (·.1.name) hfixed).trans hname
  rw [← hsamePods, ← hsameLogs] at hlogs
  obtain ⟨result, metrics, hassembled, hsummary⟩ := run_assemble hkname (hfailing.trans hcalm)
    (hsamePods ▸ hpods) hlogs
  refine ⟨result, k, { v with metrics }, ?_, hk, hsummary, hcourse, congrArg (·.2.2) hfixed, hreads⟩
  rw [run_bind_of_ok hmeasured, hwaited, hassembled]

/-! ## The whole launch -/

/-- A synchronous launch under a fresh name makes a job, waits for it, and shows it as it was read
last. -/
theorem run_launch_of_synchronous (hcalm : w.failing = []) {config : EngineConfig}
    (hinterval : 0 < config.syncPoll.interval) {taskName owner : String} {vars : Option String}
    {ready : Preparation} (hready : w.prepared taskName vars = .ok ready)
    (hsynchronous : ready.task.synchronous = true) (howner : Text.IsPlain owner) {id : String}
    (hid : id = taskName ++ "-" ++ (w.workloads.jobSuffix w.workloads.nextNumber).text)
    (hplain : Text.IsPlain id) (hfree : w.workloads.jobs.get? id = none)
    (hpods : ∀ name pod, w.workloads.pods.get? name = some pod →
      pod.metadata.labels.bind (·.get? Label.job) ≠ some id) :
    ∃ result k v, w.run (launch config taskName owner vars) = (.ok ⟨id, some result⟩, v) ∧
      v.workloads.jobs.get? id = some k ∧ result.summary = JobSummary.ofCluster k.job ∧
      k.Follows ∧ k.script = w.workloads.script ∧
      k.reads = w.workloads.script.readsUntil
        (config.syncPoll.deadline ⌈/⌉ config.syncPoll.interval + 1) := by
  obtain ⟨metrics, hprepare⟩ := run_prepare (storesHold_of_calm hcalm) taskName vars
  rw [hready] at hprepare
  obtain ⟨hname, -⟩ := holdsTask_of_prepared hready
  let job := (ready.workload owner).job config
  let made := w.workloads.made (Instant.ofMillis w.now) job id
  let created : World := { w with
    workloads := w.workloads.withJob (Instant.ofMillis w.now) job id, metrics }
  let counted : World := { created with metrics := metrics ++ [.launched .sync] }
  have hcreate : ({ w with metrics } : World).run (Procedure.workloads (.createJob job)) =
      (.ok made.job, created) :=
    run_createJob_of_free (w := { w with metrics }) config (ready.workload owner)
      (by simp [hcalm]) (hname ▸ hid) hfree
  have hcount : created.run (Procedure.count (.launched .sync)) = (.ok (), counted) := rfl
  have hscript : made.script = w.workloads.script := Simulator.script_made ..
  have hmetadata : made.job.metadata.name = some id := Simulator.name_made ..
  obtain ⟨hfound, hlogs⟩ := podsOf_withJob config (ready.workload owner) hplain howner hpods
    (v := counted) rfl
  obtain ⟨result, k, v, hrun, hrest⟩ := run_waitMeasured_assemble (w := counted) hinterval hcalm
    ((Dict.get?_insert ..).trans (if_pos rfl)) hmetadata (SimulatedJob.follows_made _ w.workloads _ _)
    (SimulatedJob.reads_advance _ _) hfound hlogs
  refine ⟨result, k, v, ?_, hscript ▸ hrest⟩
  rw [launch, run_bind_of_ok hprepare, run_bind_of_ok hcreate, hmetadata, hsynchronous]
  simp only [Option.getD_some, if_true]
  rw [run_bind_of_ok hcount, ← Dialogue.bind_assoc]
  exact run_bind_of_ok hrun _

/-- What a launch shows of a run when so many reads of its status have room. -/
structure Shown (s : Script) (allowed reads : Nat) (summary : JobSummary) : Prop where
  /-- A run that is over in time is read until then, and shown with its outcome. -/
  inTime : s.outcome ≠ .hang ∧ s.polls ≤ allowed →
    reads = max 1 s.polls ∧ summary.isFinished = true ∧ summary.state = s.outcome.endState
  /-- Any other one is read as often as there is room, and shown as running. -/
  late : ¬ (s.outcome ≠ .hang ∧ s.polls ≤ allowed) →
    reads = allowed ∧ summary.isFinished = false ∧ summary.state = .running

theorem shown_of_follows {k : SimulatedJob} (hcourse : k.Follows) {allowed : Nat}
    (hreads : k.reads = k.script.readsUntil allowed) :
    Shown k.script allowed k.reads (JobSummary.ofCluster k.job) := by
  have hfinished : (JobSummary.ofCluster k.job).isFinished = true ↔ k.script.IsOver k.reads := by
    rw [JobSummary.isFinished_ofCluster, hcourse.isTerminal_iff]
  rw [Script.readsUntil] at hreads
  constructor
  · intro htime
    rw [if_pos htime] at hreads
    have hover : k.script.IsOver k.reads := ⟨htime.1, hreads ▸ Nat.le_max_right 1 _⟩
    exact ⟨hreads, hfinished.mpr hover, hcourse.state_of_isOver hover⟩
  · intro htime
    rw [if_neg htime] at hreads
    have hgoing : ¬ k.script.IsOver k.reads := hreads ▸ htime
    exact ⟨hreads, eq_false_of_ne_true (mt hfinished.mp hgoing), hcourse.state_of_going hgoing⟩

/-- Along a session, the launch of a synchronous task is answered with a result, whatever becomes of
the run: the status of the job is read until the run is over or until no read has room before the
deadline. -/
theorem synchronous_launch_answers (config : EngineConfig)
    (hinterval : 0 < config.syncPoll.interval) (events : List SessionEvent)
    (principal : Principal) (taskName : String) (vars : Option String) {ready : Preparation}
    {id : String} (howner : Text.IsPlain principal.name)
    (hready : ((World.after config {} events).calm.run (prepare taskName vars)).1 = .ok ready)
    (hsynchronous : ready.task.synchronous = true)
    (hid : (World.after config {} events).workloads.jobName
      { generateName := some (taskName ++ "-") } = .ok id)
    (hfresh : (World.after config {} events).workloads.jobs.get? id = none) :
    ∃ result k v, (World.after config {} events).calm.run
        ((ServiceCall.createJob principal taskName vars).procedure config) =
          (.ok (.launch ⟨id, some result⟩), v) ∧
      v.workloads.jobs.get? id = some k ∧ result.summary = JobSummary.ofCluster k.job ∧
      Shown (World.after config {} events).workloads.script
        (config.syncPoll.deadline ⌈/⌉ config.syncPoll.interval + 1) k.reads result.summary := by
  have hkept := stores_after ⟨Stores.sound_empty, Stores.labelled_empty⟩ Stores.Labelled.step
    config events
  generalize World.after config {} events = w at hready hid hfresh hkept ⊢
  obtain ⟨hsound, hlabelled⟩ := hkept
  obtain ⟨metrics, hprepare⟩ := run_prepare (storesHold_of_calm (w := w.calm) rfl) taskName vars
  rw [hprepare] at hready
  obtain ⟨hname, record, hrecord, -⟩ := holdsTask_of_prepared hready
  have hfull : id = taskName ++ "-" ++ (w.workloads.jobSuffix w.workloads.nextNumber).text :=
    (Except.ok.inj hid).symm
  have hplain : Text.IsPlain id := by
    have htask := Name.isPlain_of_isLegal (hsound.legal taskName record hrecord)
    rw [hfull]
    exact (htask.append (by decide)).append (NameSuffix.isPlain_text _)
  have hpods : ∀ name pod, w.workloads.pods.get? name = some pod →
      pod.metadata.labels.bind (·.get? Label.job) ≠ some id := by
    -- A pod that carries the name belongs to a stored job, which would have the fresh name.
    intro name pod hpod hcarries
    obtain ⟨other, j, labels, hj, -, hlabels⟩ := hlabelled.pod name pod hpod
    rw [hlabels, Option.bind_some, Dict.get?_insert, if_pos rfl, Option.some_inj] at hcarries
    rw [hcarries] at hj
    cases hj.symm.trans hfresh
  obtain ⟨result, k, v, hrun, hk, hsummary, hcourse, hscript, hreads⟩ :=
    run_launch_of_synchronous (w := w.calm) rfl hinterval hready hsynchronous howner hfull hplain
      hfresh hpods
  have hcall : ∃ audit, w.calm.run
      ((ServiceCall.createJob principal taskName vars).procedure config) =
        (.ok (.launch ⟨id, some result⟩), { v with audit }) := by
    simp only [ServiceCall.procedure, createJob, run_map, run_audited, hrun]
    exact ⟨_, rfl⟩
  obtain ⟨audit, hcall⟩ := hcall
  refine ⟨result, k, { v with audit }, hcall, hk, hsummary, ?_⟩
  have hshown := shown_of_follows hcourse (hscript ▸ hreads)
  rw [hscript] at hshown
  exact hsummary ▸ hshown

/-- A salute that its caller waits for. -/
def salute : Task where
  name := "salute"
  runner := "shell"
  command := "echo salute"
  synchronous := true
  schema := none
  secret := none

/-- The session in which runs are over with the fourth read of their status. -/
def saluting : List SessionEvent :=
  greeting ++ [.call (.createTask ⟨"alice", "local"⟩ salute), .script { polls := 4 }]

/-- Four reads have room when two and a half intervals pass before the deadline. -/
def impatient : EngineConfig := { EngineConfig.standard with syncPoll := ⟨100, 250⟩ }

/-- A run that is over with the last read that has room is answered with its outcome. -/
theorem synchronous_launch_answers_salute :
    ∃ result k v, (World.after impatient {} saluting).calm.run
        ((ServiceCall.createJob ⟨"alice", "local"⟩ "salute" none).procedure impatient) =
          (.ok (.launch ⟨"salute-00001", some result⟩), v) ∧
      v.workloads.jobs.get? "salute-00001" = some k ∧ k.reads = 4 ∧
      result.summary.state = .succeeded := by
  have hready : ((World.after impatient {} saluting).calm.run (prepare "salute" none)).1 =
      .ok ⟨salute, ⟨"shell", "busybox", "https://example.org/greetings.git", "main", none⟩,
        none, none⟩ := by
    decide +kernel
  have hscript : (World.after impatient {} saluting).workloads.script = { polls := 4 } := by
    decide +kernel
  have hname : (World.after impatient {} saluting).workloads.jobName
      { generateName := some ("salute" ++ "-") } = .ok "salute-00001" := by
    decide +kernel
  obtain ⟨result, k, v, hrun, hk, -, hshown⟩ := synchronous_launch_answers impatient (by decide)
    saluting ⟨"alice", "local"⟩ "salute" none (by decide) hready rfl hname (by decide +kernel)
  rw [hscript] at hshown
  obtain ⟨hreads, -, hstate⟩ := hshown.inTime ⟨by decide, by decide⟩
  exact ⟨result, k, v, hrun, hk, hreads, hstate⟩

end World

end TaskEngine
