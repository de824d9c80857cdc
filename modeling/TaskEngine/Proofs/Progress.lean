import Mathlib.Data.List.Chain
import Mathlib.Logic.Relation
import TaskEngine.Workload.Job
import TaskEngine.Workload.Manifest

/-!
# Progress of jobs

A job is submitted, runs, and succeeds or fails. Its state is not stored but derived from counters
whenever the status is read, so progress is a matter of all statuses that a job shows one after the
other. Counters that never fall keep the states moving forward but for two histories: a pod fails
and its replacement succeeds, and a job that shows no start time loses its only active pod.
-/

namespace TaskEngine

namespace JobState

/-! ## Moving forward -/

/-- One move of a job. -/
inductive Next : JobState → JobState → Prop
  | starts : Next .submitted .running
  | succeeds : Next .running .succeeded
  | fails : Next .running .failed

/-- Whether a job gets from one state to another by moves. Between two readings it may make none,
or more than one. -/
abbrev Forward : JobState → JobState → Prop := Relation.ReflTransGen Next

/-- There is no move from a state in which the job is over. -/
theorem not_next_of_isTerminal {a b : JobState} (ha : a.isTerminal = true) : ¬ Next a b := by
  intro h
  cases h <;> cases ha

/-- A job that is over stays where it is. -/
theorem Forward.eq_of_isTerminal {a b : JobState} (h : Forward a b) (ha : a.isTerminal = true) :
    b = a := by
  rcases Relation.ReflTransGen.cases_head h with rfl | ⟨c, hnext, -⟩
  · rfl
  · exact absurd hnext (not_next_of_isTerminal ha)

/-- Nothing gets back to being submitted. -/
theorem Forward.eq_of_submitted {a : JobState} (h : Forward a .submitted) : a = .submitted := by
  rcases Relation.ReflTransGen.cases_tail h with h | ⟨c, -, hnext⟩
  · exact h.symm
  · cases hnext

/-- From submission everything is ahead. -/
theorem forward_submitted (b : JobState) : Forward .submitted b := by
  have hrunning : Forward .submitted .running := .single .starts
  cases b with
  | submitted => exact .refl
  | running => exact hrunning
  | succeeded => exact hrunning.tail .succeeds
  | failed => exact hrunning.tail .fails

/-- A running job has everything but its submission ahead. -/
theorem forward_running {b : JobState} (hb : b ≠ .submitted) : Forward .running b := by
  cases b with
  | submitted => exact absurd rfl hb
  | running => exact .refl
  | succeeded => exact .single .succeeds
  | failed => exact .single .fails

/-! ## Statuses of a job -/

/-- How many pods have failed. -/
def failures (status : Option Cluster.JobStatus) : Int := (status.bind (·.failed)).getD 0

/-- How many pods have succeeded. -/
def successes (status : Option Cluster.JobStatus) : Int := (status.bind (·.succeeded)).getD 0

/-- How many pods have not ended. -/
def active (status : Option Cluster.JobStatus) : Int := (status.bind (·.active)).getD 0

/-- Whether a start time is set. -/
def isStarted (status : Option Cluster.JobStatus) : Bool := (status.bind (·.startTime)).isSome

/-- The state in terms of what is counted. -/
theorem ofStatus_eq (status : Option Cluster.JobStatus) :
    ofStatus status =
      if 0 < successes status then .succeeded
      else if 0 < failures status then .failed
      else if isStarted status || 0 < active status then .running
      else .submitted := by
  cases status <;> rfl

/-- One status of a job is read before another: counts of ended pods do not fall, and a start time
stays set. -/
structure Precedes (earlier later : Option Cluster.JobStatus) : Prop where
  failed : failures earlier ≤ failures later
  succeeded : successes earlier ≤ successes later
  startTime : isStarted earlier = true → isStarted later = true

/-- A pod has failed, and then another one succeeds. -/
def Recovers (earlier later : Option Cluster.JobStatus) : Prop :=
  successes earlier ≤ 0 ∧ 0 < failures earlier ∧ 0 < successes later

/-- Active pods are gone without having ended, and no start time tells that they ran. -/
def FallsIdle (earlier later : Option Cluster.JobStatus) : Prop :=
  0 < active earlier ∧ ofStatus later = .submitted

/-- What a job that shows as submitted counts. -/
theorem ofStatus_eq_submitted {status : Option Cluster.JobStatus} :
    ofStatus status = .submitted ↔
      successes status ≤ 0 ∧ failures status ≤ 0 ∧ isStarted status = false ∧
        active status ≤ 0 := by
  rw [ofStatus_eq]
  split_ifs with hsucceeded hfailed hrunning
  · simp only [false_iff]
    omega
  · simp only [false_iff]
    omega
  · simp only [Bool.or_eq_true, decide_eq_true_eq] at hrunning
    simp only [false_iff]
    rintro ⟨-, -, hstarted, hactive⟩
    rcases hrunning with h | h
    · rw [hstarted] at h
      cases h
    · omega
  · simp only [Bool.or_eq_true, decide_eq_true_eq, not_or, Bool.not_eq_true] at hrunning
    exact iff_of_true rfl ⟨by omega, by omega, hrunning.1, by omega⟩

/-- What a job that shows as failed counts. -/
theorem ofStatus_eq_failed {status : Option Cluster.JobStatus} :
    ofStatus status = .failed ↔ successes status ≤ 0 ∧ 0 < failures status := by
  rw [ofStatus_eq]
  split_ifs <;> simp only [false_iff, true_iff] <;> omega

/-- What a job that shows as succeeded counts. -/
theorem ofStatus_eq_succeeded {status : Option Cluster.JobStatus} :
    ofStatus status = .succeeded ↔ 0 < successes status := by
  rw [ofStatus_eq]
  split_ifs <;> simp only [false_iff, true_iff] <;> omega

variable {earlier later : Option Cluster.JobStatus}

/-- From one reading to the next a job moves forward, unless it recovers or falls idle. -/
theorem forward_ofStatus_iff (h : Precedes earlier later) :
    Forward (ofStatus earlier) (ofStatus later) ↔
      ¬ Recovers earlier later ∧ ¬ FallsIdle earlier later := by
  obtain ⟨hfailed, hsucceeded, hstarted⟩ := h
  constructor
  · intro hforward
    constructor
    · rintro ⟨hnone, hsome, hlater⟩
      rw [ofStatus_eq_failed.mpr ⟨hnone, hsome⟩, ofStatus_eq_succeeded.mpr hlater] at hforward
      cases hforward.eq_of_isTerminal rfl
    · rintro ⟨hactive, hlater⟩
      rw [hlater] at hforward
      have hidle := ofStatus_eq_submitted.mp hforward.eq_of_submitted
      omega
  · rintro ⟨hrecovers, hidle⟩
    cases hearlier : ofStatus earlier with
    | submitted => exact forward_submitted _
    | running =>
      apply forward_running
      intro hlater
      have hcounts := ofStatus_eq_submitted.mp hlater
      -- What is seen as running without a start time is seen by its active pods.
      have hactive : ¬ active earlier ≤ 0 := by
        intro hactive
        have hquiet : isStarted earlier = false := by
          rw [← Bool.not_eq_true]
          intro hset
          rw [hstarted hset] at hcounts
          exact absurd hcounts.2.2.1 (by decide)
        have hsubmitted : ofStatus earlier = .submitted :=
          ofStatus_eq_submitted.mpr ⟨by omega, by omega, hquiet, hactive⟩
        rw [hearlier] at hsubmitted
        cases hsubmitted
      exact hidle ⟨by omega, hlater⟩
    | succeeded =>
      have hmore := ofStatus_eq_succeeded.mp hearlier
      have hlater : ofStatus later = .succeeded := ofStatus_eq_succeeded.mpr (by omega)
      rw [hlater]
    | failed =>
      obtain ⟨hnone, hsome⟩ := ofStatus_eq_failed.mp hearlier
      have hstill : ¬ 0 < successes later := fun hlater => hrecovers ⟨hnone, hsome, hlater⟩
      have hlater : ofStatus later = .failed := ofStatus_eq_failed.mpr ⟨by omega, by omega⟩
      rw [hlater]

/-! ## Runs of a job -/

/-- All states that are read one after the other only move forward, and those after a state in which
the job is over are the same. -/
structure Progresses (statuses : List (Option Cluster.JobStatus)) : Prop where
  forward : (statuses.map ofStatus).Pairwise Forward
  settled : (statuses.map ofStatus).Pairwise fun a b => a.isTerminal = true → b = a

/-- Readings that move forward one by one move forward altogether. -/
theorem progresses_of_isChain {statuses : List (Option Cluster.JobStatus)}
    (h : (statuses.map ofStatus).IsChain Forward) : Progresses statuses := by
  have hforward : (statuses.map ofStatus).Pairwise Forward := List.isChain_iff_pairwise.mp h
  exact ⟨hforward, hforward.imp fun hab hterminal => hab.eq_of_isTerminal hterminal⟩

/-- All along a run the states of a job make progress, exactly if it neither recovers nor falls idle
from one status to the next. -/
theorem progresses_iff {statuses : List (Option Cluster.JobStatus)}
    (hrun : statuses.IsChain Precedes) :
    Progresses statuses ↔
      statuses.IsChain fun earlier later => ¬ Recovers earlier later ∧ ¬ FallsIdle earlier later := by
  have hmoves : (statuses.map ofStatus).IsChain Forward ↔
      statuses.IsChain fun earlier later =>
        ¬ Recovers earlier later ∧ ¬ FallsIdle earlier later := by
    rw [List.isChain_map]
    induction hrun with
    | nil => simp
    | singleton => simp
    | cons_cons hprecedes _ ih =>
      rw [List.isChain_cons_cons, List.isChain_cons_cons, forward_ofStatus_iff hprecedes, ih]
  rw [← hmoves]
  exact ⟨fun h => List.isChain_iff_pairwise.mpr h.forward, progresses_of_isChain⟩

/-- A job that is submitted, runs and succeeds. -/
theorem progresses_of_one_pod :
    [none, some { active := some 1, startTime := some (Instant.ofMillis 0) },
      some { succeeded := some 1, startTime := some (Instant.ofMillis 0) }].IsChain Precedes ∧
    Progresses [none, some { active := some 1, startTime := some (Instant.ofMillis 0) },
      some { succeeded := some 1, startTime := some (Instant.ofMillis 0) }] := by
  have hrun : [none, some { active := some 1, startTime := some (Instant.ofMillis 0) },
      some { succeeded := some 1, startTime := some (Instant.ofMillis 0) }].IsChain Precedes := by
    rw [List.isChain_cons_cons, List.isChain_pair]
    exact ⟨⟨by decide, by decide, by decide⟩, ⟨by decide, by decide, by decide⟩⟩
  refine ⟨hrun, (progresses_iff hrun).mpr ?_⟩
  rw [List.isChain_cons_cons, List.isChain_pair]
  constructor <;> constructor
  · rintro ⟨-, hfailed, -⟩
    exact absurd hfailed (by decide)
  · rintro ⟨-, hlater⟩
    exact absurd hlater (by decide)
  · rintro ⟨-, hfailed, -⟩
    exact absurd hfailed (by decide)
  · rintro ⟨-, hlater⟩
    exact absurd hlater (by decide)

/-- A replaced pod is enough for a job that has failed to succeed. -/
theorem not_progresses_of_replacement :
    [some { failed := some Workload.backoffLimit },
      some { failed := some Workload.backoffLimit, succeeded := some 1 }].IsChain Precedes ∧
    ¬ Progresses [some { failed := some Workload.backoffLimit },
      some { failed := some Workload.backoffLimit, succeeded := some 1 }] := by
  have hrun : [some { failed := some Workload.backoffLimit },
      some { failed := some Workload.backoffLimit, succeeded := some 1 }].IsChain Precedes := by
    rw [List.isChain_pair]
    exact ⟨by decide, by decide, by decide⟩
  refine ⟨hrun, fun h => ?_⟩
  have hsettled := h.settled
  simp only [List.map_cons, List.map_nil, List.pairwise_cons] at hsettled
  cases hsettled.1 .succeeded (by decide) (by decide)

end JobState

end TaskEngine
