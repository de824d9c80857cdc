import TaskEngine.Workload.PodReport
import Mathlib.Data.List.Basic

/-!
# The first container at fault

A job that could not run is explained by one message, taken from the statuses of the containers of
its pods. Here the containers are put in one line, and what it means for one of them to be at fault
is said on its status alone. The message is that of the first container at fault, wherever it
stands, and there is none exactly if no container is at fault.
-/

namespace TaskEngine.ContainerFault

open Cluster (ContainerStatus Pod)

/-- The part a container plays in its pod. -/
inductive Role where
  /-- It prepares the pod. -/
  | init
  /-- It does the work. -/
  | main
  deriving DecidableEq

/-- The status of a container, with the part that the container plays. -/
structure Report where
  role : Role
  status : ContainerStatus
  deriving DecidableEq

/-- The containers that a pod reports on, the init containers first. -/
def reportsOf (pod : Pod) : List Report :=
  match pod.status with
  | none => []
  | some status =>
    (status.initContainerStatuses.getD []).map (Report.mk .init) ++
      (status.containerStatuses.getD []).map (Report.mk .main)

/-- The container waits for an image that cannot be pulled. -/
def CannotPull (status : ContainerStatus) : Prop :=
  ∃ state waiting reason, status.state = some state ∧ state.waiting = some waiting ∧
    waiting.reason = some reason ∧
      (reason = "ErrImagePull" ∨ reason = "ImagePullBackOff" ∨ reason = "InvalidImageName")

/-- The container has ended with another code than zero. -/
def EndedInError (status : ContainerStatus) : Prop :=
  ∃ state ended, status.state = some state ∧ state.terminated = some ended ∧ ended.exitCode ≠ 0

/-- The container keeps its job from running. What a main container ends with is the result of the
job, not a fault. -/
def Report.AtFault (report : Report) : Prop :=
  CannotPull report.status ∨ (report.role = .init ∧ EndedInError report.status)

/-- No container of the pod is at fault. -/
def Healthy (pod : Pod) : Prop := ∀ report ∈ reportsOf pod, ¬ report.AtFault

/-- What is said of a container at fault. An image that cannot be pulled is said first. -/
inductive Report.Explains : Report → String → Prop
  | pull {role : Role} {status : ContainerStatus} (h : CannotPull status) :
      Explains ⟨role, status⟩ ("failed to pull " ++ status.image ++ " image")
  | clone {status : ContainerStatus} (hpull : ¬ CannotPull status) (h : EndedInError status) :
      Explains ⟨.init, status⟩ "failed to clone repo: wrong repo url or incorrect credentials"

/-! ## One container -/

theorem isPullFailure_iff {status : ContainerStatus} :
    isPullFailure status = true ↔ CannotPull status := by
  unfold isPullFailure waitingReason? CannotPull
  constructor
  · intro h
    obtain ⟨reason, hreason, hlisted⟩ := (Option.any_eq_true _ _).mp h
    obtain ⟨waiting, hwaiting, hreason⟩ := Option.bind_eq_some_iff.mp hreason
    obtain ⟨state, hstate, hwaiting⟩ := Option.bind_eq_some_iff.mp hwaiting
    exact ⟨state, waiting, reason, hstate, hwaiting, hreason, by simpa [pullReasons] using hlisted⟩
  · rintro ⟨state, waiting, reason, hstate, hwaiting, hreason, hlisted⟩
    simp only [hstate, hwaiting, hreason, Option.bind_some, Option.any_some]
    simpa [pullReasons] using hlisted

theorem hasFailed_iff {status : ContainerStatus} :
    hasFailed status = true ↔ EndedInError status := by
  unfold hasFailed EndedInError
  constructor
  · intro h
    obtain ⟨ended, hended, hcode⟩ := (Option.any_eq_true _ _).mp h
    obtain ⟨state, hstate, hended⟩ := Option.bind_eq_some_iff.mp hended
    exact ⟨state, ended, hstate, hended, of_decide_eq_true hcode⟩
  · rintro ⟨state, ended, hstate, hended, hcode⟩
    simpa [hstate, hended] using hcode

/-- The fault of a container by the part it plays. -/
def ofReport? (report : Report) : Option ContainerFault :=
  match report.role with
  | .init => ofInit? report.status
  | .main => ofMain? report.status

theorem ofReport?_eq_none_iff {report : Report} :
    ofReport? report = none ↔ ¬ report.AtFault := by
  obtain ⟨role, status⟩ := report
  unfold Report.AtFault
  rw [← isPullFailure_iff, ← hasFailed_iff]
  cases role with
  | init =>
    unfold ofReport? ofInit?
    by_cases hpull : isPullFailure status = true
    · simp [hpull]
    · by_cases hfailed : hasFailed status = true <;> simp [hpull, hfailed]
  | main =>
    unfold ofReport? ofMain?
    by_cases hpull : isPullFailure status = true <;> simp [hpull]

/-- A fault is found in a container with the message that explains the container. -/
theorem ofReport?_map_message {report : Report} {text : String} :
    (ofReport? report).map message = some text ↔ report.Explains text := by
  constructor
  · obtain ⟨role, status⟩ := report
    intro h
    by_cases hpull : isPullFailure status = true
    · -- Both parts look for a failed pull before anything else.
      have htext : "failed to pull " ++ status.image ++ " image" = text := by
        cases role <;> simpa [ofReport?, ofInit?, ofMain?, hpull, message] using h
      rw [← htext]
      exact .pull (isPullFailure_iff.mp hpull)
    · cases role with
      | main => simp [ofReport?, ofMain?, hpull] at h
      | init =>
        by_cases hfailed : hasFailed status = true
        · have htext : "failed to clone repo: wrong repo url or incorrect credentials" = text := by
            simpa [ofReport?, ofInit?, hpull, hfailed, message] using h
          rw [← htext]
          exact .clone (fun hcannot => hpull (isPullFailure_iff.mpr hcannot))
            (hasFailed_iff.mp hfailed)
        · simp [ofReport?, ofInit?, hpull, hfailed] at h
  · intro h
    cases h with
    | @pull role status hpull =>
      rw [← isPullFailure_iff] at hpull
      cases role <;> simp [ofReport?, ofInit?, ofMain?, hpull, message]
    | clone hpull hended =>
      rw [← isPullFailure_iff] at hpull
      rw [← hasFailed_iff] at hended
      simp [ofReport?, ofInit?, hpull, hended, message]

/-! ## All containers -/

/-- The search through a pod is a search through its reports. -/
theorem ofPod?_eq_findSome? (pod : Pod) : ofPod? pod = (reportsOf pod).findSome? ofReport? := by
  unfold ofPod? reportsOf
  cases pod.status with
  | none => rfl
  | some status =>
    rw [List.findSome?_append, List.findSome?_map, List.findSome?_map]
    exact Option.orElse_eq_or

/-- The search through pods is a search through the reports of all of them in one line. -/
theorem ofPods?_eq_findSome? (pods : List Pod) :
    ofPods? pods = (pods.flatMap reportsOf).findSome? ofReport? := by
  unfold ofPods?
  induction pods with
  | nil => rfl
  | cons pod pods ih =>
    rw [List.findSome?_cons, ih, List.flatMap_cons, List.findSome?_append, ← ofPod?_eq_findSome?]
    cases ofPod? pod <;> rfl

theorem ofPods?_eq_none_iff {pods : List Pod} :
    ofPods? pods = none ↔ ∀ pod ∈ pods, Healthy pod := by
  rw [ofPods?_eq_findSome?, List.findSome?_eq_none_iff]
  simp only [ofReport?_eq_none_iff, List.mem_flatMap, Healthy]
  exact ⟨fun h pod hpod report hreport => h report ⟨pod, hpod, hreport⟩,
    fun h report ⟨pod, hpod, hreport⟩ => h pod hpod report hreport⟩

/-- Healthy pods in front are passed over. -/
theorem ofPods?_append {healthy : List Pod} (h : ∀ pod ∈ healthy, Healthy pod) (pods : List Pod) :
    ofPods? (healthy ++ pods) = ofPods? pods := by
  have hnone : ofPods? healthy = none := ofPods?_eq_none_iff.mpr h
  unfold ofPods? at hnone ⊢
  rw [List.findSome?_append, hnone, Option.none_or]

/-- The message that explains why pods could not run is there exactly if some container is at fault.
It explains the first such container: pod by pod, the init containers of a pod before its main ones,
and both in the order of the statuses. Healthy pods in front of the others do not change it. -/
theorem explained_by_first_fault (pods : List Pod) :
    ((ofPods? pods).map message = none ↔ ∀ pod ∈ pods, Healthy pod) ∧
    (∀ text, (ofPods? pods).map message = some text ↔
      ∃ before report after, pods.flatMap reportsOf = before ++ report :: after ∧
        (∀ earlier ∈ before, ¬ earlier.AtFault) ∧ report.Explains text) ∧
    ∀ healthy : List Pod, (∀ pod ∈ healthy, Healthy pod) →
      (ofPods? (healthy ++ pods)).map message = (ofPods? pods).map message := by
  refine ⟨?_, ?_, ?_⟩
  · rw [Option.map_eq_none_iff]
    exact ofPods?_eq_none_iff
  · intro text
    rw [Option.map_eq_some_iff, ofPods?_eq_findSome?]
    constructor
    · rintro ⟨fault, hfault, rfl⟩
      obtain ⟨before, report, after, hsplit, hreport, hbefore⟩ :=
        List.findSome?_eq_some_iff.mp hfault
      refine ⟨before, report, after, hsplit, ?_, ofReport?_map_message.mp (by rw [hreport]; rfl)⟩
      exact fun earlier hearlier => ofReport?_eq_none_iff.mp (hbefore earlier hearlier)
    · rintro ⟨before, report, after, hsplit, hbefore, hexplains⟩
      obtain ⟨fault, hfault, htext⟩ :=
        Option.map_eq_some_iff.mp (ofReport?_map_message.mpr hexplains)
      refine ⟨fault, List.findSome?_eq_some_iff.mpr ⟨before, report, after, hsplit, hfault, ?_⟩,
        htext⟩
      exact fun earlier hearlier => ofReport?_eq_none_iff.mpr (hbefore earlier hearlier)
  · intro healthy hhealthy
    rw [ofPods?_append hhealthy]

/-- A pod whose repository was not cloned, so that its main container still waits. -/
def unclonedPod : Pod :=
  { status := some {
      initContainerStatuses := some [
        { name := "init-hello", image := "git",
          state := some { terminated := some { exitCode := 128 } } }],
      containerStatuses := some [
        { name := "hello", image := "busybox",
          state := some { waiting := some { reason := some "PodInitializing" } } }] } }

/-- A pod that has not reported anything yet. -/
def silentPod : Pod := {}

/-- The failed clone is explained, also behind a pod without reports. -/
theorem explained_unclonedPod :
    (∀ pod ∈ [silentPod], Healthy pod) ∧
      (ofPods? ([silentPod] ++ [unclonedPod])).map message =
        some "failed to clone repo: wrong repo url or incorrect credentials" := by
  have hhealthy : ∀ pod ∈ [silentPod], Healthy pod := by
    simp [Healthy, reportsOf, silentPod]
  obtain ⟨-, hfirst, hbehind⟩ := explained_by_first_fault [unclonedPod]
  refine ⟨hhealthy, ?_⟩
  rw [hbehind _ hhealthy, hfirst]
  -- The first report is the one of the init container.
  refine ⟨[], _, _, rfl, by simp, .clone ?_ ?_⟩
  · rintro ⟨state, waiting, reason, hstate, hwaiting, -⟩
    cases hstate
    cases hwaiting
  · exact ⟨_, _, rfl, rfl, by decide⟩

end TaskEngine.ContainerFault
