import TaskEngine.Proofs.Ownership
import TaskEngine.Proofs.Polling
import TaskEngine.Proofs.Simulation.Course

/-!
# Waiting for a scripted run

What the status of a simulated job shows depends on how often it has been read. So script and policy
alone tell how often a wait reads it: until the run is over, or until the deadline leaves no room
for another read. A run that is over with the last read that has room is not given up.
-/

namespace TaskEngine

/-! ## How often a wait reads -/

/-- How often the status of a run is read if at most some reads have room. -/
def Script.readsUntil (s : Script) (allowed : Nat) : Nat :=
  if s.outcome ≠ .hang ∧ s.polls ≤ allowed then max 1 s.polls else allowed

/-- The first read after which the run is over, or no other one has room. -/
theorem Script.eq_readsUntil {s : Script} {allowed reads : Nat} (hreads : 0 < reads)
    (hend : s.IsOver reads ∨ allowed ≤ reads)
    (hgoing : ∀ earlier, 0 < earlier → earlier < reads → ¬ (s.IsOver earlier ∨ allowed ≤ earlier))
    (hallowed : 0 < allowed) : reads = s.readsUntil allowed := by
  rw [readsUntil]
  split
  · rename_i hover
    have hle : reads ≤ max 1 s.polls := by
      by_contra hlate
      exact hgoing (max 1 s.polls) (by omega) (by omega) (.inl ⟨hover.1, by omega⟩)
    rcases hend with ⟨-, hpolls⟩ | hroom <;> omega
  · rename_i hover
    have hle : reads ≤ allowed := by
      by_contra hlate
      exact hgoing allowed hallowed (by omega) (.inr (Nat.le_refl _))
    rcases hend with ⟨houtcome, hpolls⟩ | hroom
    · have hlate : ¬ s.polls ≤ allowed := fun h => hover ⟨houtcome, h⟩
      omega
    · omega

/-- Whether a wait ends after some reads of a run: the run is over, or the deadline has passed with
the last of them. -/
def PollPolicy.EndsAfter (policy : PollPolicy) (s : Script) (reads : Nat) : Prop :=
  s.IsOver reads ∨ policy.deadline ≤ (reads - 1) * policy.interval

namespace World

open Engine

/-! ## Waiting in memory -/

theorem keepsTime : KeepsTime answer World.now where
  clock _ := rfl
  slept _ _ := Nat.le_refl _
  read id w := by
    refine guarded_cases (P := fun reply => w.now ≤ reply.2.now) (Nat.le_refl _) (Nat.le_refl _)

variable {w : World}

/-- A reading in memory is made when it is due, and advances the job. -/
theorem readWhenDue_eq (hcalm : w.failing = []) {id : String} {j : SimulatedJob}
    (hj : w.workloads.jobs.get? id = some j) {due : Nat} (hdue : w.now ≤ due) :
    readWhenDue answer id due w = (due, .ok (j.read (Instant.ofMillis due)).job,
      { w with
        now := due
        workloads := { w.workloads with
          jobs := w.workloads.jobs.insert id (j.read (Instant.ofMillis due)) } }) := by
  have hslept : answer (.sleepUntil due) w = (due, { w with now := due }) := by
    simp [answer, Nat.max_eq_right hdue]
  have hread := run_readStatus (w := { w with now := due }) hcalm hj
  rw [readWhenDue, hslept]
  exact congrArg (Prod.mk due) hread

/-- What a wait leaves of a job: it was read until a read ended the wait. -/
structure Awaited (policy : PollPolicy) (j k : SimulatedJob) : Prop where
  course : k.Follows
  fixed : k.fixed = j.fixed
  reads_lt : j.reads < k.reads
  ended : policy.EndsAfter j.script k.reads
  going : ∀ earlier, j.reads < earlier → earlier < k.reads → ¬ policy.EndsAfter j.script earlier

/-- A reading of a job on its course ends a wait by the number of reads. -/
theorem endsWait_read_iff {policy : PollPolicy} {started due : Nat} {now : Instant}
    {j : SimulatedJob} (hcourse : j.Follows) (hdue : due = started + j.reads * policy.interval) :
    EndsWait policy started due (.ok (j.read now).job) ↔
      policy.EndsAfter j.script (j.reads + 1) := by
  have hover := (hcourse.read now).isTerminal_iff
  rw [j.script_read, j.reads_read] at hover
  rw [EndsWait, PollPolicy.EndsAfter, JobSummary.isFinished_ofCluster, hover, hdue,
    Nat.add_sub_cancel, Nat.add_sub_cancel_left]

/-- A wait reads the status of a job once per interval. -/
theorem awaited_of_polls {policy : PollPolicy} {id : String} {started due : Nat}
    {readings : List (Outcome Cluster.Job)} {result : Outcome WaitOutcome} {v : World}
    (hpolls : Polls answer World.now policy id started due w readings result v)
    (hcalm : w.failing = []) {j : SimulatedJob} (hj : w.workloads.jobs.get? id = some j)
    (hcourse : j.Follows) (hnow : w.now ≤ due)
    (hdue : due = started + j.reads * policy.interval) :
    ∃ k, v.workloads.jobs.get? id = some k ∧ result = verdict (.ok k.job) ∧
      Awaited policy j k := by
  induction hpolls generalizing j with
  | @ends due w woken reading t hread hend =>
    have hstep := (readWhenDue_eq hcalm hj hnow).symm.trans hread
    cases hstep
    have hreads := j.reads_read (Instant.ofMillis due)
    refine ⟨j.read (Instant.ofMillis due), (Dict.get?_insert ..).trans (if_pos rfl), rfl,
      hcourse.read _, j.fixed_read _, by omega, ?_, fun earlier hmore hfewer => by omega⟩
    rw [hreads]
    exact (endsWait_read_iff hcourse hdue).mp hend
  | @again due w woken reading t readings result u hread hgoing hrest ih =>
    have hstep := (readWhenDue_eq hcalm hj hnow).symm.trans hread
    cases hstep
    have hreads := j.reads_read (Instant.ofMillis due)
    have hscript := j.script_read (Instant.ofMillis due)
    have hnext : policy.nextDue due due = due + policy.interval := by
      rw [PollPolicy.nextDue, if_neg (by omega)]
    obtain ⟨k, hk, hresult, hawaited⟩ := ih hcalm ((Dict.get?_insert ..).trans (if_pos rfl))
      (hcourse.read _) (hnext ▸ Nat.le_add_right due _) (by
        rw [hnext, hreads, Nat.succ_mul, hdue, Nat.add_assoc])
    have hlt := hawaited.reads_lt
    refine ⟨k, hk, hresult, hawaited.course, hawaited.fixed.trans (j.fixed_read _), by omega,
      hscript ▸ hawaited.ended, fun earlier hmore hfewer => ?_⟩
    by_cases hthis : earlier = j.reads + 1
    · subst hthis
      exact fun h => hgoing ((endsWait_read_iff hcourse hdue).mpr h)
    · exact hscript ▸ hawaited.going earlier (by omega) hfewer

/-- A wait for a job that was just made reads its status as often as script and policy tell. -/
theorem run_waitFor {policy : PollPolicy} (hinterval : 0 < policy.interval)
    (hcalm : w.failing = []) {id : String} {j : SimulatedJob}
    (hj : w.workloads.jobs.get? id = some j) (hcourse : j.Follows) (hunread : j.reads = 0) :
    ∃ k v, w.run (waitFor policy id) = (verdict (.ok k.job), v) ∧
      v.workloads.jobs.get? id = some k ∧ k.Follows ∧ k.fixed = j.fixed ∧
      k.reads = j.script.readsUntil (policy.deadline ⌈/⌉ policy.interval + 1) := by
  obtain ⟨readings, -, hpolls, -⟩ := keepsTime.polls_waitFor policy id hinterval w
  obtain ⟨k, hk, hresult, hawaited⟩ := awaited_of_polls hpolls hcalm hj hcourse (Nat.le_refl _)
    (by simp [hunread])
  refine ⟨k, _, Prod.ext hresult rfl, hk, hawaited.course, hawaited.fixed, ?_⟩
  have hroom : ∀ reads, 0 < reads → (policy.deadline ≤ (reads - 1) * policy.interval ↔
      policy.deadline ⌈/⌉ policy.interval + 1 ≤ reads) := by
    intro reads hreads
    rw [Nat.mul_comm, ← ceilDiv_le_iff_le_mul hinterval]
    omega
  have hlt := hawaited.reads_lt
  rw [hunread] at hlt
  refine Script.eq_readsUntil hlt ?_ (fun earlier hpositive hearlier => ?_) (Nat.succ_pos _)
  · rw [← hroom k.reads hlt]
    exact hawaited.ended
  · rw [← hroom earlier hpositive]
    exact hawaited.going earlier (hunread ▸ hpositive) hearlier

/-- Measuring a wait counts it, and changes nothing else. -/
theorem run_waitMeasured_eq {policy : PollPolicy} {id : String} {result : Outcome WaitOutcome}
    {v : World} (hwait : w.run (waitFor policy id) = (result, v)) :
    ∃ metrics, w.run (waitMeasured policy id) = (result, { v with metrics }) := by
  have hclock : ∀ u : World, u.run Procedure.clock = (.ok u.now, u) := fun _ => rfl
  have hattempt : w.run (waitFor policy id).attempt = (.ok result, v) := by
    rw [run_attempt, hwait]
  have hcounted : ∀ metric, v.run (do Procedure.count metric; Dialogue.lift result) =
      (result, { v with metrics := v.metrics ++ [metric] }) := fun _ => rfl
  rw [waitMeasured, run_bind_of_ok (hclock w), run_bind_of_ok hattempt, run_bind_of_ok (hclock v)]
  exact ⟨_, hcounted _⟩

/-- A measured wait for a job that was just made ends with the job as it was read last. -/
theorem run_waitMeasured {policy : PollPolicy} (hinterval : 0 < policy.interval)
    (hcalm : w.failing = []) {id : String} {j : SimulatedJob}
    (hj : w.workloads.jobs.get? id = some j) (hcourse : j.Follows) (hunread : j.reads = 0) :
    ∃ k v, (∃ waited, w.run (waitMeasured policy id) = (.ok waited, v) ∧ waited.job = k.job) ∧
      v.workloads.jobs.get? id = some k ∧ k.Follows ∧ k.fixed = j.fixed ∧
      k.reads = j.script.readsUntil (policy.deadline ⌈/⌉ policy.interval + 1) := by
  obtain ⟨k, v, hwait, hk, hrest⟩ := run_waitFor hinterval hcalm hj hcourse hunread
  obtain ⟨waited, hverdict, hwaited⟩ := exists_verdict_ok k.job
  obtain ⟨metrics, hmeasured⟩ := run_waitMeasured_eq hwait
  rw [hverdict] at hmeasured
  exact ⟨k, { v with metrics }, ⟨waited, hmeasured, hwaited⟩, hk, hrest⟩

end World

end TaskEngine
