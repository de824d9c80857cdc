import TaskEngine.Proofs.Simulator
import TaskEngine.Workload.Job

/-!
# The course of a simulated job

What the status of a job shows depends on its script and on how often it has been read, except for
the times in it. A job starts on this course when it is made, and every read keeps it there: it goes
on until its script is over, and then it shows the outcome and does not change any more.
-/

namespace TaskEngine

/-! ## Scripts by the number of reads -/

/-- Whether a run is over after some reads of its status. -/
def Script.IsOver (s : Script) (reads : Nat) : Prop := s.outcome ≠ .hang ∧ s.polls ≤ reads

instance (s : Script) (reads : Nat) : Decidable (s.IsOver reads) :=
  inferInstanceAs (Decidable (s.outcome ≠ .hang ∧ s.polls ≤ reads))

/-- What is over stays over. -/
theorem Script.IsOver.mono {s : Script} {reads more : Nat} (h : s.IsOver reads)
    (hle : reads ≤ more) : s.IsOver more := ⟨h.1, Nat.le_trans h.2 hle⟩

/-- The status of a job that goes on. -/
def Cluster.JobStatus.going (started : Instant) : Cluster.JobStatus :=
  { active := some 1, startTime := some started }

/-- The status of a job after some reads, if it was started and would have ended at these times. -/
def Script.statusAfter (s : Script) (reads : Nat) (started ended : Instant) : Cluster.JobStatus :=
  if s.IsOver reads then SimulatedJob.finish s.outcome ended (.going started) else .going started

/-- The state of a job whose run is over; a run that hangs goes on. -/
def RunOutcome.endState : RunOutcome → JobState
  | .succeed => .succeeded
  | .fail => .failed
  | .hang => .running

/-- What the status of a job shows once it has ended in this way. -/
def RunOutcome.Shows : RunOutcome → Cluster.JobStatus → Prop
  | .succeed, status =>
    status.succeeded = some 1 ∧ status.completionTime.isSome = true ∧ status.failed = none
  | .fail, status =>
    status.failed = some 1 ∧ status.succeeded = none ∧ status.completionTime = none
  | .hang, _ => False

namespace SimulatedJob

variable {j : SimulatedJob} (now : Instant)

/-! ## What a read leaves -/

theorem script_advance : (j.advance now).script = j.script :=
  congrArg (·.2.2) (j.fixed_advance now)

theorem script_read (j : SimulatedJob) : (j.read now).script = j.script :=
  congrArg (·.2.2) (j.fixed_read now)

theorem reads_advance (j : SimulatedJob) : (j.advance now).reads = j.reads := by
  rw [advance]
  simp only
  split <;> rfl

theorem reads_read (j : SimulatedJob) : (j.read now).reads = j.reads + 1 :=
  reads_advance now _

/-- A job is not ended before its script says so. -/
theorem advance_of_going (h : ¬ j.script.IsOver j.reads) : j.advance now = j := by
  by_cases hhang : j.script.outcome = .hang
  · simp [advance, hhang]
  · have hearly : j.reads < j.script.polls := Nat.lt_of_not_le fun hpolls => h ⟨hhang, hpolls⟩
    simp [advance, hearly]

/-- A job that goes on ends as soon as its script says so. -/
theorem status_advance {started : Instant}
    (h : j.job.status = some (.going started)) :
    (j.advance now).job.status = some (j.script.statusAfter j.reads started now) := by
  unfold Script.statusAfter
  by_cases hover : j.script.IsOver j.reads
  · rw [if_pos hover]
    have hgoing : isFinal (.going started) = false := rfl
    simp [advance, h, hover.1, Nat.not_lt.mpr hover.2, hgoing]
  · rw [if_neg hover, advance_of_going now hover, h]

/-- A job that has ended stays as it is. -/
theorem advance_of_finish {started ended : Instant} (hhang : j.script.outcome ≠ .hang)
    (h : j.job.status = some (finish j.script.outcome ended (.going started))) :
    j.advance now = j := by
  have hfinal : isFinal (finish j.script.outcome ended (.going started)) = true := by
    cases houtcome : j.script.outcome with
    | succeed => rfl
    | fail => rfl
    | hang => exact absurd houtcome hhang
  simp [advance, h, hfinal]

/-! ## The course -/

/-- The status of a job is the one that its script has after the reads made so far. -/
def Follows (j : SimulatedJob) : Prop :=
  ∃ started ended, j.job.status = some (j.script.statusAfter j.reads started ended)

/-- A job that was just made follows its script. -/
theorem follows_made (s : Simulator) (job : Cluster.Job) (name : String) :
    (s.made now job name).Follows := by
  refine ⟨now, now, ?_⟩
  unfold Simulator.made
  rw [status_advance now rfl, script_advance, reads_advance]

namespace Follows

/-- A read of a job that is over leaves its status, and all else that others see of it. -/
theorem job_read (h : j.Follows) (hover : j.script.IsOver j.reads) : (j.read now).job = j.job := by
  obtain ⟨started, ended, hstatus⟩ := h
  rw [Script.statusAfter, if_pos hover] at hstatus
  have hkept := advance_of_finish (j := { j with reads := j.reads + 1 }) now hover.1 hstatus
  rw [SimulatedJob.read, hkept]

/-- Every read makes a job follow its script further. -/
theorem read (h : j.Follows) : (j.read now).Follows := by
  obtain ⟨started, ended, hstatus⟩ := id h
  unfold Follows
  rw [script_read, reads_read]
  by_cases hover : j.script.IsOver j.reads
  · refine ⟨started, ended, ?_⟩
    rw [h.job_read now hover, hstatus, Script.statusAfter, Script.statusAfter, if_pos hover,
      if_pos (hover.mono (Nat.le_succ _))]
  · rw [Script.statusAfter, if_neg hover] at hstatus
    exact ⟨started, now, status_advance (j := { j with reads := j.reads + 1 }) now hstatus⟩

/-! ## What a status shows -/

/-- A job that goes on is shown as running. -/
theorem state_of_going (h : j.Follows) (hgoing : ¬ j.script.IsOver j.reads) :
    JobState.ofStatus j.job.status = .running := by
  obtain ⟨started, ended, hstatus⟩ := h
  rw [hstatus, Script.statusAfter, if_neg hgoing]
  simp [JobState.ofStatus, Cluster.JobStatus.going]

/-- A job that is over shows its outcome. -/
theorem shows (h : j.Follows) (hover : j.script.IsOver j.reads) :
    ∃ status, j.job.status = some status ∧ j.script.outcome.Shows status := by
  obtain ⟨started, ended, hstatus⟩ := h
  rw [Script.statusAfter, if_pos hover] at hstatus
  refine ⟨_, hstatus, ?_⟩
  cases houtcome : j.script.outcome with
  | succeed => exact ⟨rfl, rfl, rfl⟩
  | fail => exact ⟨rfl, rfl, rfl⟩
  | hang => exact absurd houtcome hover.1

theorem state_of_isOver (h : j.Follows) (hover : j.script.IsOver j.reads) :
    JobState.ofStatus j.job.status = j.script.outcome.endState := by
  obtain ⟨status, hstatus, hshows⟩ := h.shows hover
  rw [hstatus]
  cases houtcome : j.script.outcome with
  | succeed =>
    rw [houtcome] at hshows
    simp [JobState.ofStatus, RunOutcome.endState, hshows.1]
  | fail =>
    rw [houtcome] at hshows
    simp [JobState.ofStatus, RunOutcome.endState, hshows.1, hshows.2.1]
  | hang => exact absurd houtcome hover.1

/-- A job is in a terminal state exactly if its script is over. -/
theorem isTerminal_iff (h : j.Follows) :
    (JobState.ofStatus j.job.status).isTerminal = true ↔ j.script.IsOver j.reads := by
  by_cases hover : j.script.IsOver j.reads
  · refine iff_of_true ?_ hover
    rw [h.state_of_isOver hover]
    cases houtcome : j.script.outcome with
    | succeed => rfl
    | fail => rfl
    | hang => exact absurd houtcome hover.1
  · rw [h.state_of_going hover]
    exact iff_of_false (by simp [JobState.isTerminal]) hover

end Follows

end SimulatedJob

end TaskEngine
