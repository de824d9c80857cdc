import TaskEngine.Proofs.Simulation.Jobs

/-!
# Init containers that fail in scripts

The script of a run says how its init container fails and, apart from that, how its job ends. The
pod shows the first and the job the second, and nothing makes them agree: whether a job can succeed
is up to the outcome in its script alone, so the main container of a job that has succeeded may
still be waiting behind an init container that has failed.
-/

namespace TaskEngine

/-- The status tells of no success. -/
def Cluster.JobStatus.NotSucceeded (status : Option Cluster.JobStatus) : Prop :=
  JobState.ofStatus status ≠ .succeeded ∧ (status.getD {}).completionTime = none

/-- No job that is made under a script ever shows a success. Whatever happens before it is removed,
it neither is in the state of one nor has a time of completion. -/
def Script.NeverSucceeds (script : Script) : Prop :=
  ∀ (s : Simulator) (now : Instant) (job made : Cluster.Job) (id : String), s.script = script →
    (s.answer now (.createJob job)).1 = .ok made → made.metadata.name = some id →
      ∀ history t, (s.answer now (.createJob job)).2.Undergoes history t →
        (∀ happening ∈ history, happening.removes id = false) →
          ∃ j, t.jobs.get? id = some j ∧ Cluster.JobStatus.NotSucceeded j.job.status

namespace SimulatedJob

variable {j : SimulatedJob}

/-- A job whose script does not let it succeed shows no success. -/
theorem Follows.notSucceeded (h : j.Follows) (houtcome : j.script.outcome ≠ .succeed) :
    Cluster.JobStatus.NotSucceeded j.job.status := by
  obtain ⟨started, ended, hstatus⟩ := h
  rw [hstatus, Script.statusAfter]
  by_cases hover : j.script.IsOver j.reads
  · rw [if_pos hover]
    cases hend : j.script.outcome with
    | succeed => exact absurd hend houtcome
    | fail => exact ⟨by simp [JobState.ofStatus, finish, Cluster.JobStatus.going], rfl⟩
    | hang => exact absurd hend hover.1
  · rw [if_neg hover]
    exact ⟨by simp [JobState.ofStatus, Cluster.JobStatus.going], rfl⟩

/-- A job that is over shows a success if that is its outcome. -/
theorem Follows.not_notSucceeded (h : j.Follows) (houtcome : j.script.outcome = .succeed)
    (hpolls : j.script.polls ≤ j.reads) : ¬ Cluster.JobStatus.NotSucceeded j.job.status := by
  have hover : j.script.IsOver j.reads := ⟨by simp [houtcome], hpolls⟩
  obtain ⟨status, hstatus, hshows⟩ := h.shows hover
  rw [houtcome] at hshows
  rintro ⟨-, hcompletion⟩
  have hcompleted := hshows.2.1
  rw [hstatus, Option.getD_some] at hcompletion
  rw [hcompletion] at hcompleted
  cases hcompleted

end SimulatedJob

namespace Simulator

variable {s : Simulator} {now : Instant} {id : String}

/-- A submission that succeeds stores the job under the name that it answers. -/
theorem get?_of_createJob {job made : Cluster.Job}
    (hmade : (s.answer now (.createJob job)).1 = .ok made) (hid : made.metadata.name = some id) :
    (s.answer now (.createJob job)).2.jobs.get? id = some (s.made now job id) := by
  simp only [answer, createJob_eq] at hmade ⊢
  cases hname : s.jobName job.metadata with
  | error e =>
    rw [hname] at hmade
    cases hmade
  | ok name =>
    rw [hname, Outcome.ok_bind] at hmade
    rw [Outcome.ok_bind]
    cases hdemand :
        WriteMode.create.demand WorkloadCall.jobResource name (s.jobs.contains name) with
    | error e =>
      rw [hdemand] at hmade
      cases hmade
    | ok u =>
      rw [hdemand] at hmade
      cases hmade
      -- The name of the answer is the one that the job was given.
      cases hid.symm.trans (s.name_made now job name)
      exact (Dict.get?_insert ..).trans (if_pos rfl)

/-- The status of a job can be read at any times. -/
theorem undergoes_reads {j : SimulatedJob} (hj : s.jobs.get? id = some j) (times : List Instant) :
    ∃ history t, s.Undergoes history t ∧ (∀ happening ∈ history, happening.removes id = false) ∧
      t.jobs.get? id = some (j.readAt times) := by
  induction times generalizing s j with
  | nil => exact ⟨[], s, .idle s, by simp, hj⟩
  | cons now times ih =>
    have hread : (s.answer now (.getJob id)).2.jobs.get? id = some (j.read now) := by
      simp only [answer, find, hj]
      exact (Dict.get?_insert ..).trans (if_pos rfl)
    obtain ⟨history, t, hrest, hkept, hk⟩ := ih hread
    exact ⟨_, t, .step (.answered now (.getJob id)) hrest,
      List.forall_mem_cons.mpr ⟨rfl, hkept⟩, hk⟩

end Simulator

namespace Script

theorem neverSucceeds_of_outcome {script : Script} (h : script.outcome ≠ .succeed) :
    script.NeverSucceeds := by
  intro s now job made id hscript hmade hid history t hlater hkept
  have hstored := Simulator.get?_of_createJob hmade hid
  obtain ⟨j, hj, hpersists⟩ := hlater.kept hstored hkept
  refine ⟨j, hj, (hpersists.follows (SimulatedJob.follows_made now s job id)).notSucceeded ?_⟩
  rw [hpersists.script_eq, Simulator.script_made, hscript]
  exact h

/-- A job with a name, which any simulator without jobs accepts. -/
def sampleJob : Cluster.Job := { metadata := { name := some "sample" } }

/-- Under a script that lets it succeed, the sample shows a success once its status has been read
often enough. -/
theorem not_neverSucceeds_of_outcome {script : Script} (h : script.outcome = .succeed) :
    ¬ script.NeverSucceeds := by
  intro hnever
  let s : Simulator := { script }
  let now : Instant := .ofMillis 0
  have hmade : (s.answer now (.createJob sampleJob)).1 = .ok (s.made now sampleJob "sample").job :=
    rfl
  have hid := s.name_made now sampleJob "sample"
  obtain ⟨history, t, hreads, hkept, ht⟩ := Simulator.undergoes_reads
    (Simulator.get?_of_createJob hmade hid) (List.replicate script.polls now)
  obtain ⟨j, hj, hfailed⟩ := hnever s now sampleJob _ "sample" rfl hmade hid history t hreads hkept
  cases hj.symm.trans ht
  have hfollows := (SimulatedJob.follows_made now s sampleJob "sample").readAt
    (List.replicate script.polls now)
  refine hfollows.not_notSucceeded ?_ ?_ hfailed
  · rw [SimulatedJob.script_readAt, Simulator.script_made]
    exact h
  · rw [SimulatedJob.script_readAt, Simulator.script_made, SimulatedJob.reads_readAt, List.length_replicate]
    exact Nat.le_add_left ..

/-- Whatever its init container fails of, a job can succeed exactly if its script says so. -/
theorem neverSucceeds_withInitFailure_iff (script : Script) (failure : Option InitFailure) :
    ({ script with initFailure := failure } : Script).NeverSucceeds ↔
      script.outcome ≠ .succeed := by
  constructor
  · intro hnever hsucceed
    have hsame : ({ script with initFailure := failure } : Script).outcome = .succeed := hsucceed
    exact not_neverSucceeds_of_outcome hsame hnever
  · intro houtcome
    have hsame : ({ script with initFailure := failure } : Script).outcome ≠ .succeed := houtcome
    exact neverSucceeds_of_outcome hsame

/-- A script with an init container that ends with an error, which leaves the job its success. -/
def brokenClone : Script := { initFailure := some (.exit 128) }

/-- A job whose init container ends with an error succeeds all the same where the script does not
say that it fails. -/
theorem not_neverSucceeds_initFailure :
    ¬ ∀ script : Script, script.initFailure.isSome = true → script.NeverSucceeds := by
  intro h
  have houtcome : brokenClone.outcome = .succeed := rfl
  exact not_neverSucceeds_of_outcome houtcome (h brokenClone rfl)

end Script

end TaskEngine
