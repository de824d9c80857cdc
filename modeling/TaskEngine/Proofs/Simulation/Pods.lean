import TaskEngine.Proofs.MountedSecrets
import TaskEngine.Proofs.Ownership
import TaskEngine.Proofs.Simulation.Jobs

/-!
# Pods of simulated jobs

A job is made together with its pod and the logs of that pod, and it is removed with them. The name
of the pod is that of the job, a hyphen and a completion without hyphens, so that no two jobs have
pods of one name. Whatever happens in between, the pods and their logs are those of the stored jobs.
-/

namespace TaskEngine

/-! ## Names of pods -/

/-- What stands before the last occurrence of a separator is determined by the whole. -/
theorem Text.eq_of_append_cons {separator : Char} {front other back rest : List Char}
    (hback : separator ∉ back) (hrest : separator ∉ rest)
    (h : front ++ separator :: back = other ++ separator :: rest) : front = other := by
  rcases List.append_eq_append_iff.mp h with ⟨between, rfl, hsplit⟩ | ⟨between, rfl, hsplit⟩
  · cases between with
    | nil => rw [List.append_nil]
    | cons c between =>
      cases hsplit
      exact absurd (by simp) hback
  · cases between with
    | nil => rw [List.append_nil]
    | cons c between =>
      cases hsplit
      exact absurd (by simp) hrest

/-- There is no hyphen in what completes a name. -/
theorem NameSuffix.hyphen_notMem (s : NameSuffix) : '-' ∉ s.text.toList := by
  intro h
  rw [text, String.toList_ofList] at h
  exact absurd (List.all_eq_true.mp s.legal _ h) (by decide)

/-- The name of a pod tells the name of its job. -/
theorem NameSuffix.eq_of_podName {id other : String} {s t : NameSuffix}
    (h : id ++ "-" ++ s.text = other ++ "-" ++ t.text) : id = other := by
  have hlists : id.toList ++ '-' :: s.text.toList = other.toList ++ '-' :: t.text.toList := by
    simpa using congrArg String.toList h
  exact String.toList_inj.mp (Text.eq_of_append_cons s.hyphen_notMem t.hyphen_notMem hlists)

/-! ## What belongs to jobs -/

namespace SimulatedJob

/-- The pod that a job gets from its script, under a name. -/
def pod (j : SimulatedJob) (podName id : String) : Cluster.Pod :=
  j.script.pod podName id j.job.template

/-- The logs that the pod of a job gets from its script, unless there are none. -/
def logs? (j : SimulatedJob) : Option (Dict String) :=
  let logs := j.script.logs j.job.template
  if logs.isEmpty then none else some logs

theorem pod_of_fixed {j k : SimulatedJob} (h : j.fixed = k.fixed) (podName id : String) :
    j.pod podName id = k.pod podName id := by
  have hspec : j.job.spec = k.job.spec := congrArg (·.2.1) h
  have hscript : j.script = k.script := congrArg (·.2.2) h
  rw [pod, pod, Cluster.Job.template, Cluster.Job.template, hspec, hscript]

theorem logs?_of_fixed {j k : SimulatedJob} (h : j.fixed = k.fixed) : j.logs? = k.logs? := by
  have hspec : j.job.spec = k.job.spec := congrArg (·.2.1) h
  have hscript : j.script = k.script := congrArg (·.2.2) h
  rw [logs?, logs?, Cluster.Job.template, Cluster.Job.template, hspec, hscript]

end SimulatedJob

/-- A dictionary holds what jobs have, each under the name of its pod, and nothing else. -/
def Attached {α : Type} (objects : Dict α) (jobs : Dict SimulatedJob) (podName : String → String)
    (of : (name id : String) → SimulatedJob → Option α) : Prop :=
  ∀ name object, objects.get? name = some object ↔
    ∃ id j, jobs.get? id = some j ∧ podName id = name ∧ of name id j = some object

namespace Attached

variable {α : Type} {objects changed : Dict α} {jobs : Dict SimulatedJob}
  {podName : String → String} {of : (name id : String) → SimulatedJob → Option α}

/-- What jobs have does not change with their statuses. -/
theorem congr (h : Attached objects jobs podName of)
    (hof : ∀ name id {j k}, j.fixed = k.fixed → of name id j = of name id k)
    {polled : Dict SimulatedJob} (hpolled : ∀ id, (polled.get? id).map SimulatedJob.fixed =
      (jobs.get? id).map SimulatedJob.fixed) : Attached objects polled podName of := by
  intro name object
  rw [h name object]
  constructor
  · rintro ⟨id, j, hj, hname, hobject⟩
    have hsame := hpolled id
    rw [hj, Option.map_some] at hsame
    obtain ⟨k, hk, hfixed⟩ := Option.map_eq_some_iff.mp hsame
    exact ⟨id, k, hk, hname, (hof name id hfixed).trans hobject⟩
  · rintro ⟨id, k, hk, hname, hobject⟩
    have hsame := hpolled id
    rw [hk, Option.map_some] at hsame
    obtain ⟨j, hj, hfixed⟩ := Option.map_eq_some_iff.mp hsame.symm
    exact ⟨id, j, hj, hname, (hof name id hfixed).trans hobject⟩

/-- A new job brings what it has, under a name that no other pod can have. -/
theorem made (h : Attached objects jobs podName of) {id name : String} {j : SimulatedJob}
    (hfree : jobs.get? id = none) (hnew : ∀ other, other ≠ id → podName other ≠ name)
    (hobject : changed.get? name = of name id j)
    (hrest : ∀ other, other ≠ name → changed.get? other = objects.get? other) :
    Attached changed (jobs.insert id j) (Function.update podName id name) of := by
  intro other object
  have hstored : ∀ {key k}, jobs.get? key = some k → key ≠ id := by
    rintro key k hk rfl
    rw [hfree] at hk
    cases hk
  constructor
  · intro hget
    by_cases hother : other = name
    · subst hother
      refine ⟨id, j, (Dict.get?_insert ..).trans (if_pos rfl), Function.update_self .., ?_⟩
      rw [← hobject, hget]
    · rw [hrest other hother] at hget
      obtain ⟨key, k, hk, hname, hof⟩ := (h other object).mp hget
      have hkey := hstored hk
      refine ⟨key, k, ?_, ?_, hof⟩
      · rw [Dict.get?_insert, if_neg hkey.symm, hk]
      · rw [Function.update_of_ne hkey, hname]
  · rintro ⟨key, k, hk, hname, hof⟩
    rw [Dict.get?_insert] at hk
    by_cases hkey : id = key
    · subst hkey
      rw [if_pos rfl] at hk
      cases hk
      rw [Function.update_self] at hname
      subst hname
      rw [hobject, hof]
    · rw [if_neg hkey] at hk
      rw [Function.update_of_ne (Ne.symm hkey)] at hname
      have hother : other ≠ name := fun he => hnew key (Ne.symm hkey) (hname.trans he)
      rw [hrest other hother]
      exact (h other object).mpr ⟨key, k, hk, hname, hof⟩

/-- With a job goes what it has. -/
theorem gone (h : Attached objects jobs podName of) (hinj : Function.Injective podName)
    {id : String} (hobject : changed.get? (podName id) = none)
    (hrest : ∀ other, other ≠ podName id → changed.get? other = objects.get? other) :
    Attached changed (jobs.erase id) podName of := by
  intro name object
  simp only [Dict.get?_erase]
  constructor
  · intro hget
    have hname : name ≠ podName id := by
      rintro rfl
      rw [hobject] at hget
      cases hget
    rw [hrest name hname] at hget
    obtain ⟨key, k, hk, hkey, hof⟩ := (h name object).mp hget
    refine ⟨key, k, ?_, hkey, hof⟩
    rw [if_neg, hk]
    rintro rfl
    exact hname hkey.symm
  · rintro ⟨key, k, hk, hkey, hof⟩
    split at hk
    · cases hk
    · rename_i hother
      have hname : name ≠ podName id := fun he => hother (hinj (he ▸ hkey)).symm
      rw [hrest name hname]
      exact (h name object).mpr ⟨key, k, hk, hkey, hof⟩

end Attached

namespace Simulator

/-! ## The invariant -/

/-- The pods and the logs are those of the stored jobs, under these names. -/
structure Staffed (s : Simulator) (podName : String → String) : Prop where
  named : ∀ id, ∃ suffix : NameSuffix, podName id = id ++ "-" ++ suffix.text
  pods : Attached s.pods s.jobs podName fun name id j => some (j.pod name id)
  logs : Attached s.logs s.jobs podName fun _ _ j => j.logs?

variable {s t : Simulator} {podName : String → String}

theorem staffed_empty : Staffed {} fun id => id ++ "-" ++ NameSuffix.pod.text where
  named id := ⟨NameSuffix.pod, rfl⟩
  pods name pod := by simp
  logs name logs := by simp

/-- No two jobs have pods of one name. -/
theorem Staffed.injective (h : s.Staffed podName) : Function.Injective podName := by
  intro id other hsame
  obtain ⟨suffix, hid⟩ := h.named id
  obtain ⟨suffix', hother⟩ := h.named other
  exact NameSuffix.eq_of_podName (hid.symm.trans (hsame.trans hother))

/-- Where pods, logs and jobs up to their statuses are kept, so is what belongs to the jobs. -/
theorem Staffed.polled (h : s.Staffed podName) (hpods : t.pods = s.pods) (hlogs : t.logs = s.logs)
    (hjobs : ∀ id, (t.jobs.get? id).map SimulatedJob.fixed =
      (s.jobs.get? id).map SimulatedJob.fixed) : t.Staffed podName where
  named := h.named
  pods := by
    rw [hpods]
    exact h.pods.congr (fun name id _ _ hfixed => by rw [SimulatedJob.pod_of_fixed hfixed]) hjobs
  logs := by
    rw [hlogs]
    exact h.logs.congr (fun _ _ _ _ hfixed => SimulatedJob.logs?_of_fixed hfixed) hjobs

/-- The pod that comes with a new job. -/
theorem pods_withJob (s : Simulator) (now : Instant) (job : Cluster.Job) (id : String) :
    (s.withJob now job id).pods =
      s.pods.insert (s.podName id) ((s.made now job id).pod (s.podName id) id) := by
  rw [SimulatedJob.pod, Cluster.Job.template, spec_made, script_made]
  rfl

/-- The logs under a new name are those of the pod, unless there are none. -/
theorem logs_insertPod {name : String} (hnone : s.logs.get? name = none) (pod : Cluster.Pod)
    (logs : Dict String) (other : String) :
    (s.insertPod name pod logs).logs.get? other =
      if name = other then if logs.isEmpty then none else some logs else s.logs.get? other := by
  unfold insertPod
  by_cases hempty : logs.isEmpty = true
  · simp only [hempty, if_true]
    split
    · rename_i hname
      rw [← hname, hnone]
    · rfl
  · have hown : Dict.insertAll ∅ logs.toList = logs :=
      Dict.ofList_eq fun key value => Dict.mem_toList
    simp only [hempty, Bool.false_eq_true, if_false, hnone, Option.getD_none, hown,
      Dict.get?_insert]

/-- The logs that come with a new job. -/
theorem logs_withJob (now : Instant) (job : Cluster.Job) {id : String}
    (hnone : s.logs.get? (s.podName id) = none) (name : String) :
    (s.withJob now job id).logs.get? name =
      if s.podName id = name then (s.made now job id).logs? else s.logs.get? name := by
  rw [SimulatedJob.logs?, Cluster.Job.template, spec_made, script_made]
  exact logs_insertPod hnone (s.script.pod (s.podName id) id (job.spec.getD {}).template) _ name

/-- A new job under a free name comes with its pod and its logs. -/
theorem Staffed.withJob (h : s.Staffed podName) (now : Instant) (job : Cluster.Job) {id : String}
    (hfree : s.jobs.get? id = none) :
    (s.withJob now job id).Staffed (Function.update podName id (s.podName id)) := by
  have hnew : ∀ other, other ≠ id → podName other ≠ s.podName id := by
    intro other hother hsame
    obtain ⟨suffix, hname⟩ := h.named other
    exact hother (NameSuffix.eq_of_podName (hname.symm.trans hsame))
  have hnone : s.logs.get? (s.podName id) = none := by
    cases hget : s.logs.get? (s.podName id) with
    | none => rfl
    | some logs =>
      obtain ⟨other, j, hj, hname, -⟩ := (h.logs _ logs).mp hget
      have hother : other ≠ id := by
        rintro rfl
        rw [hfree] at hj
        cases hj
      exact absurd hname (hnew other hother)
  refine ⟨fun other => ?_, ?_, ?_⟩
  · by_cases hother : other = id
    · subst hother
      exact ⟨s.podSuffix s.nextNumber, Function.update_self ..⟩
    · rw [Function.update_of_ne hother]
      exact h.named other
  · refine h.pods.made hfree hnew ?_ fun other hother => ?_
    · rw [pods_withJob, Dict.get?_insert, if_pos rfl]
    · rw [pods_withJob, Dict.get?_insert, if_neg (Ne.symm hother)]
  · refine h.logs.made hfree hnew ?_ fun other hother => ?_
    · rw [logs_withJob now job hnone, if_pos rfl]
    · rw [logs_withJob now job hnone, if_neg (Ne.symm hother)]

/-- A scripted pod is labelled with its job. -/
theorem label_pod (j : SimulatedJob) (podName id : String) :
    (j.pod podName id).metadata.labels.bind (·.get? Label.job) = some id := by
  rw [SimulatedJob.pod, Script.pod, Option.bind_some, Dict.get?_insert, if_pos rfl]

/-- The pods that carry the name of a job are its own pod alone. -/
theorem Staffed.labelled_iff (h : s.Staffed podName) {id : String} {j : SimulatedJob}
    (hj : s.jobs.get? id = some j) (name : String) :
    (∃ pod, s.pods.get? name = some pod ∧
      pod.metadata.labels.bind (·.get? Label.job) = some id) ↔ name = podName id := by
  constructor
  · rintro ⟨pod, hpod, hlabel⟩
    obtain ⟨other, k, -, rfl, hof⟩ := (h.pods name pod).mp hpod
    cases hof
    rw [label_pod, Option.some_inj] at hlabel
    rw [hlabel]
  · rintro rfl
    exact ⟨_, (h.pods _ _).mpr ⟨id, j, hj, rfl, rfl⟩, label_pod ..⟩

/-- With a job go its pod and its logs, if the selector for them reads its name as it is. -/
theorem Staffed.removeJob (h : s.Staffed podName) {id : String} {j : SimulatedJob}
    (hj : s.jobs.get? id = some j) (hplain : Text.IsPlain id) :
    (s.removeJob id).Staffed podName := by
  have hpods : ∀ name, name ∈ s.podsOf id ↔ name = podName id := by
    intro name
    simp only [mem_podsOf, accepts_podSelector hplain]
    exact h.labelled_iff hj name
  have hgone : ∀ {α : Type} (objects : Dict α),
      ((s.podsOf id).foldl Dict.erase objects).get? (podName id) = none ∧
        ∀ other, other ≠ podName id →
          ((s.podsOf id).foldl Dict.erase objects).get? other = objects.get? other := by
    intro α objects
    exact ⟨(Dict.get?_foldl_erase ..).trans (if_pos ((hpods _).mpr rfl)),
      fun other hother => (Dict.get?_foldl_erase ..).trans (if_neg fun hmem =>
        hother ((hpods other).mp hmem))⟩
  exact ⟨h.named, h.pods.gone h.injective (hgone s.pods).1 (hgone s.pods).2,
    h.logs.gone h.injective (hgone s.logs).1 (hgone s.logs).2⟩

end Simulator

namespace World

/-! ## Sessions -/

variable {w : World}

/-- What a call does keeps the pods and the logs with their jobs. -/
theorem Moves.staffed {config : EngineConfig} {t : Stores} (h : w.Moves config t)
    (hlabelled : w.stores.Labelled) {podName : String → String}
    (hstaffed : w.workloads.Staffed podName) : ∃ podName, t.workloads.Staffed podName := by
  cases h with
  | polled hpolled =>
    exact ⟨podName, hstaffed.polled hpolled.pods hpolled.logs hpolled.jobs⟩
  | launched workload id held named free hpolled =>
    exact ⟨_, (hstaffed.withJob _ _ free).polled hpolled.pods hpolled.logs hpolled.jobs⟩
  | changed target hchange =>
    cases hchange with
    | jobRemoval hj => exact ⟨podName, hstaffed.removeJob hj (hlabelled.job _ _ hj).1⟩
    | _ => exact ⟨podName, hstaffed.named, hstaffed.pods, hstaffed.logs⟩

/-- Whatever happens keeps the pods and the logs with their jobs. -/
theorem staffed_step (config : EngineConfig) (event : SessionEvent) (hhold : w.StoresHold)
    (hlabelled : w.stores.Labelled) {podName : String → String}
    (hstaffed : w.workloads.Staffed podName) :
    ∃ podName, (w.step config event).2.workloads.Staffed podName := by
  cases event with
  | call call => exact (moves_call hhold config call).staffed hlabelled hstaffed
  | elapse | script | fail | suffixes =>
    exact ⟨podName, hstaffed.named, hstaffed.pods, hstaffed.logs⟩

/-- In a session the pods and the logs are always those of the stored jobs. -/
theorem staffed_after (config : EngineConfig) (events : List SessionEvent) :
    ∃ podName, (World.after config {} events).workloads.Staffed podName := by
  have hstep : ∀ (w : World) event,
      w.StoresHold ∧ (w.stores.Sound ∧ w.stores.Labelled) ∧
        (∃ podName, w.workloads.Staffed podName) →
      (w.step config event).2.StoresHold ∧
        ((w.step config event).2.stores.Sound ∧ (w.step config event).2.stores.Labelled) ∧
        ∃ podName, (w.step config event).2.workloads.Staffed podName := by
    rintro w event ⟨hhold, hboth, podName, hstaffed⟩
    exact ⟨storesHold_step hhold config event,
      Stores.Labelled.step (step_stores hhold config event) hboth,
      staffed_step config event hhold hboth.2 hstaffed⟩
  exact (after_of_step hstep ⟨storesHold_after config [], ⟨Stores.sound_empty,
    Stores.labelled_empty⟩, _, Simulator.staffed_empty⟩ events).2.2

end World

end TaskEngine
