import TaskEngine.Proofs.Simulation.Pods

/-!
# What a history tells of the orchestrator

Jobs, pods, logs and counters are kept in maps of their own, and every one of them changes with some
of the calls only. After any session they agree with each other and with the history of the session:
a job is as far as its script and the reads of its status since its creation say, it has the one pod
and the logs that come with it, and the counter of mutations has counted the calls that made one.
-/

namespace TaskEngine

/-! ## Containers and their logs -/

/-- The names of the containers of a pod, of the init containers first. -/
def Cluster.Pod.containerNames (pod : Cluster.Pod) : List String :=
  let spec := pod.spec.getD {}
  (spec.initContainers.getD [] ++ spec.containers).map (·.name)

/-- The job that a pod is labelled with. -/
def Cluster.Pod.job? (pod : Cluster.Pod) : Option String :=
  pod.metadata.labels.bind (·.get? Label.job)

/-- The log of a container of a pod. -/
def Simulator.log? (s : Simulator) (pod container : String) : Option String :=
  (s.logs.get? pod).bind (·.get? container)

/-- The script of a pod that is placed has a log for each container and for nothing else. -/
theorem SimulatedJob.isSome_log (j : SimulatedJob) (podName id container : String) :
    (j.logs?.bind (·.get? container)).isSome = true ↔
      j.script.unscheduled = false ∧ container ∈ (j.pod podName id).containerNames := by
  have hwhole : j.logs?.bind (·.get? container) =
      (j.script.logs j.job.template).get? container := by
    unfold logs?
    by_cases hempty : (j.script.logs j.job.template).isEmpty = true
    · simp only [hempty, if_true, Option.bind_none]
      rw [Dict.isEmpty_iff.mp hempty]
      rfl
    · simp only [hempty, if_false, Option.bind_some, Bool.false_eq_true]
  rw [hwhole, Script.logs]
  cases hscheduled : j.script.unscheduled with
  | true => simp
  | false =>
    simp only [Bool.false_eq_true, if_false, Dict.ofList, Dict.isSome_get?_insertAll]
    simp [pod, Script.pod, Cluster.Pod.containerNames]

/-! ## Jobs -/

/-- What the history so far tells of a stored job. -/
structure SimulatedJob.AgreesWith (j : SimulatedJob) (history : List Happening) (id : String) :
    Prop where
  /-- It was made under the script then in force, was not removed since, and has counted the reads
  of its status since. -/
  origin : ∃ before submitted made since,
    history = before ++ .answered (.createJob submitted) (.ok made) :: since ∧
      made.metadata.name = some id ∧ j.script = Happening.scriptAfter before ∧
      (∀ happening ∈ since, happening.removes id = false) ∧
      j.reads = since.countP (·.reads id)
  /-- It is over exactly if it does not hang and its status has been read often enough. -/
  terminal : (JobState.ofStatus j.job.status).isTerminal = true ↔
    j.script.outcome ≠ .hang ∧ j.script.polls ≤ j.reads
  /-- Once it is over it shows its outcome. -/
  shown : (JobState.ofStatus j.job.status).isTerminal = true →
    ∃ status, j.job.status = some status ∧ j.script.outcome.Shows status

namespace Simulator

variable {s t : Simulator} {history : List Happening}

/-- The jobs of an orchestrator that was empty at first agree with its history. -/
theorem Undergoes.job (h : Undergoes {} history t) {id : String} {k : SimulatedJob}
    (hk : t.jobs.get? id = some k) : k.Follows ∧ k.AgreesWith history id := by
  rcases h.origin hk with ⟨j, hj, -⟩ | ⟨before, u, now, submitted, since, rfl, hbefore, hsince⟩
  · cases hj
  have hfollows := hsince.follows (SimulatedJob.follows_made now u submitted id)
  refine ⟨hfollows, ⟨before, submitted, _, since, rfl, ?_, ?_, hsince.kept, ?_⟩,
    hfollows.isTerminal_iff, fun hterminal => hfollows.shows (hfollows.isTerminal_iff.mp hterminal)⟩
  · exact name_made u now submitted id
  · rw [hsince.script_eq, script_made]
    exact hbefore.script
  · rw [hsince.reads_eq, made, SimulatedJob.reads_advance]
    exact Nat.zero_add _

/-- A job that is over stays as it is until it is removed. -/
theorem Undergoes.lasting (h : s.Undergoes history t) {id : String} {j : SimulatedJob}
    (hj : s.jobs.get? id = some j) (hfollows : j.Follows)
    (hover : (JobState.ofStatus j.job.status).isTerminal = true) :
    (∃ happening ∈ history, happening.removes id = true) ∨
      ∃ k, t.jobs.get? id = some k ∧ k.job = j.job := by
  by_cases hremoved : ∃ happening ∈ history, happening.removes id = true
  · exact .inl hremoved
  · have hkept : ∀ happening ∈ history, happening.removes id = false := by
      intro happening hmem
      rw [← Bool.not_eq_true]
      exact fun hremoves => hremoved ⟨happening, hmem, hremoves⟩
    obtain ⟨k, hk, hpersists⟩ := h.kept hj hkept
    exact .inr ⟨k, hk, hpersists.job_eq hfollows (hfollows.isTerminal_iff.mp hover)⟩

/-! ## The whole state -/

/-- The maps and the counter of the orchestrator agree with each other and with its history. -/
structure AgreesWith (s : Simulator) (history : List Happening) : Prop where
  /-- Every job is as far as its script and the reads of its status say. -/
  job : ∀ id j, s.jobs.get? id = some j → j.AgreesWith history id
  /-- Every job has one pod with its name on it, with a log for each container of the pod and no
  other, and with none at all if the pod is never placed. -/
  pod : ∀ id j, s.jobs.get? id = some j → ∃ name pod, s.pods.get? name = some pod ∧
    pod.job? = some id ∧
    (∀ other p, s.pods.get? other = some p → p.job? = some id → other = name) ∧
    ∀ container, (s.log? name container).isSome = true ↔
      j.script.unscheduled = false ∧ container ∈ pod.containerNames
  /-- Every pod belongs to a stored job. -/
  podOwned : ∀ name pod, s.pods.get? name = some pod →
    ∃ id j, s.jobs.get? id = some j ∧ pod.job? = some id
  /-- Every log belongs to a pod. -/
  logOwned : ∀ name container text, s.log? name container = some text →
    ∃ pod, s.pods.get? name = some pod
  /-- What is counted are the calls that have created, applied or removed an object. -/
  mutations : s.mutations = history.countP Happening.mutates

/-- The log of a container is that of the job whose pod it belongs to. -/
theorem Staffed.log?_eq {podName : String → String} (h : s.Staffed podName) {id : String}
    {j : SimulatedJob} (hj : s.jobs.get? id = some j) (container : String) :
    s.log? (podName id) container = j.logs?.bind (·.get? container) := by
  have hlogs : s.logs.get? (podName id) = j.logs? := by
    refine Option.ext fun logs => ?_
    rw [h.logs (podName id) logs]
    constructor
    · rintro ⟨other, k, hk, hname, hof⟩
      cases h.injective hname
      cases hk.symm.trans hj
      exact hof
    · exact fun hof => ⟨id, j, hj, rfl, hof⟩
  rw [log?, hlogs]

/-- An orchestrator that was empty at first and whose pods are those of its jobs agrees with its
history. -/
theorem Undergoes.agreesWith (h : Undergoes {} history s) {podName : String → String}
    (hstaffed : s.Staffed podName) : s.AgreesWith history where
  job id j hj := (h.job hj).2
  pod id j hj := by
    refine ⟨podName id, j.pod (podName id) id, (hstaffed.pods _ _).mpr ⟨id, j, hj, rfl, rfl⟩,
      label_pod .., ?_, ?_⟩
    · intro other p hp hlabel
      exact (hstaffed.labelled_iff hj other).mp ⟨p, hp, hlabel⟩
    · intro container
      rw [hstaffed.log?_eq hj]
      exact j.isSome_log (podName id) id container
  podOwned name pod hpod := by
    obtain ⟨id, j, hj, rfl, hof⟩ := (hstaffed.pods name pod).mp hpod
    cases hof
    exact ⟨id, j, hj, label_pod ..⟩
  logOwned name container text htext := by
    obtain ⟨logs, hlogs, -⟩ := Option.bind_eq_some_iff.mp htext
    obtain ⟨id, j, hj, rfl, -⟩ := (hstaffed.logs name logs).mp hlogs
    exact ⟨_, (hstaffed.pods _ _).mpr ⟨id, j, hj, rfl, rfl⟩⟩
  mutations := by
    rw [h.mutations]
    exact Nat.zero_add _

end Simulator

namespace World

/-- After every session the orchestrator agrees with the history of the session, and however the
session goes on, a job that is over is not changed any more unless it is removed. -/
theorem workloads_agree_with_history (config : EngineConfig) (events : List SessionEvent) :
    (World.after config {} events).workloads.AgreesWith (World.history config {} events) ∧
      ∀ (later : List SessionEvent) (id : String) (j : SimulatedJob),
        (World.after config {} events).workloads.jobs.get? id = some j →
        (JobState.ofStatus j.job.status).isTerminal = true →
          (∃ happening ∈ (World.after config {} events).history config later,
            happening.removes id = true) ∨
          ∃ k, (World.after config {} (events ++ later)).workloads.jobs.get? id = some k ∧
            k.job = j.job := by
  have hhistory := undergoes_after config {} events
  obtain ⟨podName, hstaffed⟩ := staffed_after config events
  refine ⟨hhistory.agreesWith hstaffed, fun later id j hj hover => ?_⟩
  have hlater := undergoes_after config (World.after config {} events) later
  have hwhole : World.after config {} (events ++ later) =
      (World.after config {} events).after config later := List.foldl_append ..
  rw [hwhole]
  exact hlater.lasting hj (hhistory.job hj).1 hover

/-- The session in which a job of the greeting is launched that is over with the first read of its
status, and is read once. -/
def readOnce : List SessionEvent :=
  greeting ++ [.script (.succeeding "hello" 1),
    .call (.createJob ⟨"alice", "local"⟩ "hello" none), .call (.getJob "hello-00001" none)]

/-- Another script and another read, which leave the job of that session as it is. -/
def readAgain : List SessionEvent :=
  [.script .hanging, .elapse 1000, .call (.getJob "hello-00001" none)]

/-- The job is over after the first read, and the second one does not change it. It has one pod, with
logs of the two containers that the pod has and of no other, and one call was counted. -/
theorem workloads_agree_with_history_readOnce :
    ∃ j, (World.after .standard {} readOnce).workloads.jobs.get? "hello-00001" = some j ∧
      (JobState.ofStatus j.job.status).isTerminal = true ∧
      (∃ name pod, (World.after .standard {} readOnce).workloads.pods.get? name = some pod ∧
        pod.job? = some "hello-00001" ∧
        ∀ container, ((World.after .standard {} readOnce).workloads.log? name container).isSome =
          true ↔ container ∈ ["init-hello", "hello"]) ∧
      (World.after .standard {} readOnce).workloads.mutations = 1 ∧
      ∃ k, (World.after .standard {} (readOnce ++ readAgain)).workloads.jobs.get? "hello-00001" =
        some k ∧ k.job = j.job := by
  obtain ⟨hagrees, hlasting⟩ := workloads_agree_with_history .standard readOnce
  have hover : ((World.after .standard {} readOnce).workloads.jobs.get? "hello-00001").map
      (fun j => ((JobState.ofStatus j.job.status).isTerminal, j.script.unscheduled)) =
        some (true, false) := by
    decide +kernel
  have hcontainers : ∀ entry ∈ (World.after .standard {} readOnce).workloads.pods.toList,
      entry.2.containerNames = ["init-hello", "hello"] := by
    decide +kernel
  have hcount : (World.history .standard {} readOnce).countP Happening.mutates = 1 := by
    decide +kernel
  have hkept : (((World.after .standard {} readOnce).history .standard readAgain).all
      fun happening => !happening.removes "hello-00001") = true := by
    decide +kernel
  obtain ⟨j, hj, hshown⟩ := Option.map_eq_some_iff.mp hover
  obtain ⟨hterminal, hscheduled⟩ := Prod.mk.inj hshown
  obtain ⟨name, pod, hpod, hlabel, -, hlogs⟩ := hagrees.pod "hello-00001" j hj
  have hnames := hcontainers (name, pod) (Dict.mem_toList.mpr hpod)
  refine ⟨j, hj, hterminal, ⟨name, pod, hpod, hlabel, fun container => ?_⟩,
    hagrees.mutations.trans hcount, ?_⟩
  · rw [hlogs container, hnames, and_iff_right hscheduled]
  · rcases hlasting readAgain "hello-00001" j hj hterminal with
      ⟨happening, hmem, hremoves⟩ | ⟨k, hk, hsame⟩
    · have hnot := List.all_eq_true.mp hkept happening hmem
      rw [hremoves] at hnot
      cases hnot
    · exact ⟨k, hk, hsame⟩

end World

end TaskEngine
