import Mathlib.Algebra.Order.Floor.Div
import TaskEngine.Console.Invocation
import TaskEngine.Proofs.Engine.Reads

/-!
# Waits end

A wait reads the status of a job until a reading ends it: one that failed, one of a job that is
over, or one made when the deadline has passed. The times at which readings are due grow by an
interval each, so the deadline comes before the counter of the wait runs out. What a wait answers is
decided by the reading made last.
-/

namespace TaskEngine

/-- The counters that end a wait are those that the state of a job is derived from. -/
theorem JobSummary.isFinished_ofCluster (job : Cluster.Job) :
    (JobSummary.ofCluster job).isFinished = (JobState.ofStatus job.status).isTerminal := by
  cases hstatus : job.status with
  | none => simp [isFinished, ofCluster, hstatus, JobState.ofStatus, JobState.isTerminal]
  | some status =>
    have hpositive : ∀ n : Int, 0 < max n 0 ↔ 0 < n := by
      intro n
      omega
    simp only [isFinished, ofCluster, hstatus, Option.getD_some, JobState.ofStatus, hpositive]
    by_cases hsucceeded : 0 < status.succeeded.getD 0
    · simp [hsucceeded, JobState.isTerminal]
    · by_cases hfailed : 0 < status.failed.getD 0
      · simp [hsucceeded, hfailed, JobState.isTerminal]
      · rw [if_neg hsucceeded, if_neg hfailed]
        split <;> simp [hsucceeded, hfailed, JobState.isTerminal]

namespace PollPolicy

/-- A policy that reads again, and before the deadline. -/
def IsValid (policy : PollPolicy) : Prop :=
  0 < policy.interval ∧ policy.interval ≤ policy.deadline

variable {policy : PollPolicy}

/-- However late a reading came, the next one is due an interval after it was due. -/
theorem le_nextDue (policy : PollPolicy) (due woken : Nat) :
    due + policy.interval ≤ policy.nextDue due woken := by
  rw [nextDue]
  split <;> omega

/-- After the last reading that is allowed, the deadline has passed. -/
theorem deadline_le_laterReads (hinterval : 0 < policy.interval) :
    policy.deadline ≤ policy.laterReads * policy.interval := by
  have hceil : policy.deadline ≤ policy.interval * (policy.deadline ⌈/⌉ policy.interval) :=
    le_smul_ceilDiv hinterval
  rwa [Nat.mul_comm]

end PollPolicy

namespace Engine

/-! ## Readings -/

/-- Whether a reading made at some time ends a wait: it failed, the job is over, or the deadline has
passed. -/
def EndsWait (policy : PollPolicy) (started time : Nat) : Outcome Cluster.Job → Prop
  | .error _ => True
  | .ok job =>
    (JobSummary.ofCluster job).isFinished = true ∨ policy.deadline ≤ time - started

instance (policy : PollPolicy) (started time : Nat) :
    (reading : Outcome Cluster.Job) → Decidable (EndsWait policy started time reading)
  | .error _ => inferInstanceAs (Decidable True)
  | .ok _ => inferInstanceAs (Decidable (_ ∨ _))

/-- The answer of a wait that a reading ends. -/
def verdict (reading : Outcome Cluster.Job) : Outcome WaitOutcome :=
  reading.map fun job =>
    if (JobSummary.ofCluster job).isFinished then .completed job else .timedOut job

theorem verdict_ok (job : Cluster.Job) : verdict (.ok job) =
    .ok (if (JobSummary.ofCluster job).isFinished then .completed job else .timedOut job) := rfl

/-- A job that was read is the job of the answer. -/
theorem exists_verdict_ok (job : Cluster.Job) :
    ∃ waited : WaitOutcome, verdict (.ok job) = .ok waited ∧ waited.job = job := by
  rw [verdict_ok]
  split
  · exact ⟨_, rfl, rfl⟩
  · exact ⟨_, rfl, rfl⟩

theorem verdict_eq_error_iff {reading : Outcome Cluster.Job} {e : EngineError} :
    verdict reading = .error e ↔ reading = .error e := by
  cases reading <;> simp [verdict]

theorem verdict_eq_completed_iff {reading : Outcome Cluster.Job} {job : Cluster.Job} :
    verdict reading = .ok (.completed job) ↔
      reading = .ok job ∧ (JobSummary.ofCluster job).isFinished = true := by
  cases reading with
  | error e => simp [verdict]
  | ok read =>
    rw [verdict_ok]
    cases hover : (JobSummary.ofCluster read).isFinished with
    | true =>
      constructor
      · rintro ⟨⟩
        exact ⟨rfl, hover⟩
      · rintro ⟨⟨⟩, -⟩
        rfl
    | false =>
      constructor
      · rintro ⟨⟩
      · rintro ⟨⟨⟩, hjob⟩
        rw [hover] at hjob
        cases hjob

/-- The job of an answer is the one that was read. -/
theorem eq_of_verdict {reading : Outcome Cluster.Job} {waited : WaitOutcome}
    (h : verdict reading = .ok waited) : reading = .ok waited.job := by
  cases reading with
  | error e => cases h
  | ok read =>
    rw [verdict_ok] at h
    cases hover : (JobSummary.ofCluster read).isFinished <;> rw [hover] at h <;> cases h <;> rfl

/-- A wait that is given up has read a job under way, and the deadline has passed. -/
theorem EndsWait.late_of_timedOut {policy : PollPolicy} {started time : Nat}
    {reading : Outcome Cluster.Job} (hend : EndsWait policy started time reading)
    {job : Cluster.Job} (h : verdict reading = .ok (.timedOut job)) :
    (JobSummary.ofCluster job).isFinished = false ∧ policy.deadline ≤ time - started := by
  obtain rfl := eq_of_verdict h
  have hunfinished : (JobSummary.ofCluster job).isFinished = false := by
    by_contra hover
    have hcompleted := verdict_eq_completed_iff.mpr ⟨rfl, Bool.not_eq_false _ ▸ hover⟩
    cases h.symm.trans hcompleted
  refine ⟨hunfinished, hend.resolve_left ?_⟩
  rw [WaitOutcome.job, hunfinished]
  exact Bool.false_ne_true

section Loop

variable {σ : Type} (answer : (r : Request) → σ → r.Reply × σ) (now : σ → Nat)

/-- One reading: the time of waking up, the status, and the surroundings after it. -/
def readWhenDue (id : String) (due : Nat) (s : σ) : Nat × Outcome Cluster.Job × σ :=
  let slept := answer (.sleepUntil due) s
  let read := answer (.workloads (.getJob id)) slept.2
  (slept.1, read)

/-- Surroundings with a clock that never goes back, where nobody wakes up before it is time. -/
structure KeepsTime : Prop where
  /-- Looking at the clock takes no time. -/
  clock : ∀ s, answer .clock s = (now s, s)
  /-- Waking up is not early. -/
  slept : ∀ due s, max (now s) due ≤ now (answer (.sleepUntil due) s).2
  /-- Reading a status may take time. -/
  read : ∀ id s, now s ≤ now (answer (.workloads (.getJob id)) s).2

/-! ## The loop without a counter -/

variable (policy : PollPolicy) (id : String) (started : Nat)

/-- The readings of a wait from one that is due on, with its answer and the surroundings after it. -/
inductive Polls : Nat → σ → List (Outcome Cluster.Job) → Outcome WaitOutcome → σ → Prop
  /-- A reading ends the wait. -/
  | ends {due s woken reading t} (hread : readWhenDue answer id due s = (woken, reading, t))
    (hend : EndsWait policy started (now t) reading) :
    Polls due s [reading] (verdict reading) t
  /-- After a reading that does not end it, the wait goes on. -/
  | again {due s woken reading t readings result u}
    (hread : readWhenDue answer id due s = (woken, reading, t))
    (hgoing : ¬ EndsWait policy started (now t) reading)
    (hrest : Polls (policy.nextDue due woken) t readings result u) :
    Polls due s (reading :: readings) result u

variable {answer now policy id started}

/-- A wait has one course only. -/
theorem Polls.functional {due : Nat} {s : σ} {readings readings' : List (Outcome Cluster.Job)}
    {result result' : Outcome WaitOutcome} {t t' : σ}
    (h : Polls answer now policy id started due s readings result t)
    (h' : Polls answer now policy id started due s readings' result' t') :
    readings = readings' ∧ result = result' ∧ t = t' := by
  induction h generalizing readings' with
  | ends hread hend =>
    cases h' with
    | ends hread' =>
      cases hread.symm.trans hread'
      exact ⟨rfl, rfl, rfl⟩
    | again hread' hgoing =>
      cases hread.symm.trans hread'
      exact absurd hend hgoing
  | again hread hgoing hrest ih =>
    cases h' with
    | ends hread' hend =>
      cases hread.symm.trans hread'
      exact absurd hend hgoing
    | again hread' _ hrest' =>
      cases hread.symm.trans hread'
      obtain ⟨rfl, rfl, rfl⟩ := ih hrest'
      exact ⟨rfl, rfl, rfl⟩

/-- A reading that does not end a wait is one of a job that is under way. -/
theorem going_of_not_endsWait {time : Nat} {reading : Outcome Cluster.Job}
    (h : ¬ EndsWait policy started time reading) :
    ∃ job, reading = .ok job ∧ (JobSummary.ofCluster job).isFinished = false ∧
      time - started < policy.deadline := by
  cases reading with
  | error e => exact absurd trivial h
  | ok job =>
    have hcases := not_or.mp h
    exact ⟨job, rfl, Bool.eq_false_iff.mpr hcases.1, Nat.lt_of_not_le hcases.2⟩

/-- The job is under way until the last reading, which decides. -/
theorem Polls.exists_last {due : Nat} {s : σ} {readings : List (Outcome Cluster.Job)}
    {result : Outcome WaitOutcome} {t : σ}
    (h : Polls answer now policy id started due s readings result t) :
    ∃ front last, readings = front ++ [last] ∧
      (∀ reading ∈ front, ∃ job, reading = .ok job ∧
        (JobSummary.ofCluster job).isFinished = false) ∧
      result = verdict last ∧ EndsWait policy started (now t) last := by
  induction h with
  | ends hread hend => exact ⟨[], _, rfl, by simp, rfl, hend⟩
  | @again _ _ _ reading _ _ _ _ hread hgoing hrest ih =>
    obtain ⟨front, last, rfl, hfront, hresult, hend⟩ := ih
    refine ⟨reading :: front, last, rfl, ?_, hresult, hend⟩
    intro other hmem
    rcases List.mem_cons.mp hmem with rfl | hmem
    · obtain ⟨job, hjob, hunfinished, -⟩ := going_of_not_endsWait hgoing
      exact ⟨job, hjob, hunfinished⟩
    · exact hfront other hmem

/-! ## The wait follows the loop -/

/-- What follows a reading starts from the surroundings after it. -/
theorem run_readWhenDue (due : Nat) (s : σ) {α : Type}
    (next : Nat → Cluster.Job → Procedure α) :
    (do
      let woken ← Procedure.sleepUntil due
      let job ← Procedure.workloads (.getJob id)
      next woken job : Procedure α).run answer s =
      match readWhenDue answer id due s with
      | (_, .error e, t) => (.error e, t)
      | (woken, .ok job, t) => (next woken job).run answer t := by
  rcases hslept : answer (.sleepUntil due) s with ⟨woken, u⟩
  rcases hgot : answer (.workloads (.getJob id)) u with ⟨reply, t⟩
  have hsleep : (Procedure.sleepUntil due).run answer s = (.ok woken, u) := by
    simp [Procedure.sleepUntil, Dialogue.request, Dialogue.run, hslept]
  have hstatus : (Procedure.workloads (.getJob id)).run answer u = (reply, t) := by
    simp [Procedure.workloads, Dialogue.run, hgot]
  refine (Dialogue.run_andThen_of_ok hsleep).trans ?_
  rw [readWhenDue, hslept, hgot]
  cases reply with
  | error e => exact Dialogue.run_andThen_of_error hstatus
  | ok job => exact Dialogue.run_andThen_of_ok hstatus

variable (htime : KeepsTime answer now)

include htime

/-- No reading is over before it was due. -/
theorem KeepsTime.due_le {due woken : Nat} {s t : σ} {reading : Outcome Cluster.Job}
    (hread : readWhenDue answer id due s = (woken, reading, t)) : due ≤ now t := by
  have ht : t = (answer (.workloads (.getJob id)) (answer (.sleepUntil due) s).2).2 :=
    (congrArg (·.2.2) hread).symm
  have hslept := htime.slept due s
  have hlater := htime.read id (answer (.sleepUntil due) s).2
  rw [ht]
  omega

/-- What a wait does with a reading of a job. -/
theorem KeepsTime.run_pollRound_of_ok {due woken : Nat} {s t : σ} {job : Cluster.Job}
    (hread : readWhenDue answer id due s = (woken, .ok job, t))
    (next : Nat → Cluster.Job → Procedure WaitOutcome) :
    (pollRound policy id started due next).run answer s =
      if EndsWait policy started (now t) (.ok job) then (verdict (.ok job), t)
      else (next woken job).run answer t := by
  have hclock : ∀ next : Nat → Procedure WaitOutcome,
      (Procedure.clock >>= next).run answer t = (next (now t)).run answer t := by
    intro next
    refine Dialogue.run_andThen_of_ok ?_
    simp [Procedure.clock, Dialogue.request, Dialogue.run, htime.clock]
  rw [pollRound, run_readWhenDue, hread]
  cases hover : (JobSummary.ofCluster job).isFinished with
  | true =>
    simp only [hover, if_true, verdict_ok, EndsWait, true_or]
    rfl
  | false =>
    simp only [hover, Bool.false_eq_true, if_false, hclock, EndsWait, false_or, verdict_ok]
    by_cases hlate : policy.deadline ≤ now t - started
    · rw [if_pos hlate, if_pos hlate]
      rfl
    · rw [if_neg hlate, if_neg hlate]

/-- A reading that ends a wait decides it. -/
theorem KeepsTime.run_pollRound_of_endsWait {due woken : Nat} {s t : σ}
    {reading : Outcome Cluster.Job}
    (hread : readWhenDue answer id due s = (woken, reading, t))
    (hend : EndsWait policy started (now t) reading)
    (next : Nat → Cluster.Job → Procedure WaitOutcome) :
    (pollRound policy id started due next).run answer s = (verdict reading, t) := by
  cases reading with
  | error e =>
    rw [pollRound, run_readWhenDue, hread]
    rfl
  | ok job => rw [htime.run_pollRound_of_ok hread, if_pos hend]

variable (policy id started)

/-- A counter that lasts to the deadline is not what ends a wait. -/
theorem KeepsTime.polls_pollFrom (later due : Nat) (s : σ)
    (hlasts : started + policy.deadline ≤ due + later * policy.interval) :
    ∃ readings, readings.length ≤ later + 1 ∧
      Polls answer now policy id started due s readings
        ((pollFrom policy id started later due).run answer s).1
        ((pollFrom policy id started later due).run answer s).2 := by
  induction later generalizing due s with
  | zero =>
    rcases hread : readWhenDue answer id due s with ⟨woken, reading, t⟩
    have hdue := htime.due_le hread
    have hend : EndsWait policy started (now t) reading := by
      by_contra hgoing
      obtain ⟨_, -, -, hearly⟩ := going_of_not_endsWait hgoing
      omega
    refine ⟨[reading], Nat.le_refl 1, ?_⟩
    rw [pollFrom_zero, htime.run_pollRound_of_endsWait hread hend]
    exact .ends hread hend
  | succ more ih =>
    rcases hread : readWhenDue answer id due s with ⟨woken, reading, t⟩
    rw [pollFrom_succ]
    by_cases hend : EndsWait policy started (now t) reading
    · rw [htime.run_pollRound_of_endsWait hread hend]
      exact ⟨[reading], by simp, .ends hread hend⟩
    · obtain ⟨job, rfl, -⟩ := going_of_not_endsWait hend
      rw [htime.run_pollRound_of_ok hread, if_neg hend]
      have hnext := policy.le_nextDue due woken
      rw [Nat.succ_mul] at hlasts
      obtain ⟨readings, hlength, hrest⟩ := ih (policy.nextDue due woken) t (by omega)
      exact ⟨.ok job :: readings, by simpa using hlength, .again hread hend hrest⟩

/-- A wait is decided by a reading, and its counter could be larger. -/
theorem KeepsTime.polls_waitFor (hinterval : 0 < policy.interval) (s : σ) :
    ∃ readings, readings.length ≤ policy.deadline ⌈/⌉ policy.interval + 1 ∧
      Polls answer now policy id (now s) (now s) s readings
        ((waitFor policy id).run answer s).1 ((waitFor policy id).run answer s).2 ∧
      ∀ extra, (pollFrom policy id (now s) (policy.laterReads + extra) (now s)).run answer s =
        (waitFor policy id).run answer s := by
  have hwait : (waitFor policy id).run answer s =
      (pollFrom policy id (now s) policy.laterReads (now s)).run answer s := by
    refine Dialogue.run_andThen_of_ok ?_
    simp [Procedure.clock, Dialogue.request, Dialogue.run, htime.clock]
  have hlasts := PollPolicy.deadline_le_laterReads hinterval
  obtain ⟨readings, hlength, hpolls⟩ := htime.polls_pollFrom policy id (now s) policy.laterReads
    (now s) s (by omega)
  refine ⟨readings, hlength, hwait ▸ hpolls, fun extra => ?_⟩
  obtain ⟨readings', -, hpolls'⟩ := htime.polls_pollFrom policy id (now s)
    (policy.laterReads + extra) (now s) s (by
      rw [Nat.add_mul]
      omega)
  obtain ⟨-, hresult, ht⟩ := hpolls'.functional hpolls
  exact (Prod.ext hresult ht).trans hwait.symm

end Loop

end Engine

/-! ## Any answers and any latencies -/

/-- What the readings of statuses are like, each by its number. -/
structure Readings where
  /-- The answer for a job. -/
  reply : String → Nat → Outcome Cluster.Job
  /-- How many milliseconds the reading takes. -/
  latency : Nat → Nat
  /-- How many milliseconds after it was due the reading starts. -/
  lateness : Nat → Nat

/-- The time, and how many statuses were read. -/
structure Moment where
  now : Nat
  reads : Nat
  deriving DecidableEq

namespace Readings

/-- The answer to everything but a reading. -/
def unanswered : EngineError := .infrastructure "only statuses are answered" false

/-- Answer a request. -/
def answer (r : Readings) : (request : Request) → Moment → request.Reply × Moment
  | .workloads (.getJob name), m =>
    (r.reply name m.reads, { now := m.now + r.latency m.reads, reads := m.reads + 1 })
  | .clock, m => (m.now, m)
  | .sleepUntil due, m =>
    let woken := max m.now due + r.lateness m.reads
    (woken, { m with now := woken })
  | .catalog _, m | .secrets _, m | .workloads _, m => (.error unanswered, m)
  | .record _, m | .count _, m => ((), m)

open Engine

variable {r : Readings}

theorem keepsTime (r : Readings) : KeepsTime r.answer Moment.now where
  clock _ := rfl
  slept _ _ := Nat.le_add_right _ _
  read _ _ := Nat.le_add_right _ _

/-- Each reading is counted, and shows the answer of its number. -/
theorem readings_of_polls {policy : PollPolicy} {id : String} {started due : Nat} {m t : Moment}
    {readings : List (Outcome Cluster.Job)} {result : Outcome WaitOutcome}
    (h : Polls r.answer Moment.now policy id started due m readings result t) :
    t.reads = m.reads + readings.length ∧
      readings = (List.range' m.reads readings.length).map (r.reply id) := by
  have hstep : ∀ {due woken : Nat} {m t : Moment} {reading : Outcome Cluster.Job},
      readWhenDue r.answer id due m = (woken, reading, t) →
        reading = r.reply id m.reads ∧ t.reads = m.reads + 1 := by
    intro due woken m t reading hread
    cases hread
    exact ⟨rfl, rfl⟩
  induction h with
  | ends hread hend =>
    obtain ⟨hreading, hreads⟩ := hstep hread
    exact ⟨hreads, by simp [hreading]⟩
  | again hread hgoing hrest ih =>
    obtain ⟨hreading, hreads⟩ := hstep hread
    rw [hreads] at ih
    refine ⟨?_, ?_⟩
    · rw [ih.1, List.length_cons]
      omega
    · rw [List.length_cons, List.range'_succ, List.map_cons, ← hreading]
      exact congrArg _ ih.2

/-- What a wait keeps to. -/
structure Bounds (r : Readings) (policy : PollPolicy) (id : String) (start stop : Moment)
    (result : Outcome WaitOutcome) : Prop where
  /-- The status is read at least once. -/
  reads : start.reads < stop.reads
  /-- It is not read more often than once at once and once per interval. -/
  reads_le : stop.reads ≤ start.reads + (policy.deadline ⌈/⌉ policy.interval + 1)
  /-- Up to the last reading the job is there and under way. -/
  going : ∀ k, start.reads ≤ k → k + 1 < stop.reads → ∃ job, r.reply id k = .ok job ∧
    (JobState.ofStatus job.status).isTerminal = false
  /-- The wait fails if the last reading did, and with the same error. -/
  failed : ∀ e, result = .error e ↔ r.reply id (stop.reads - 1) = .error e
  /-- The wait is completed if the last reading is that of a job that is over. -/
  completed : ∀ job, result = .ok (.completed job) ↔ r.reply id (stop.reads - 1) = .ok job ∧
    (JobState.ofStatus job.status).isTerminal = true
  /-- The wait is given up only behind the deadline, and if no reading was that of a job that is
  over. -/
  timedOut : ∀ job, result = .ok (.timedOut job) → policy.deadline ≤ stop.now - start.now ∧
    ∀ k, start.reads ≤ k → k < stop.reads → ∃ job, r.reply id k = .ok job ∧
      (JobState.ofStatus job.status).isTerminal = false
  /-- The job is the one of the last reading. -/
  last : ∀ waited, result = .ok waited → r.reply id (stop.reads - 1) = .ok waited.job

theorem bounds_of_polls {policy : PollPolicy} {id : String} {start stop : Moment}
    {readings : List (Outcome Cluster.Job)} {result : Outcome WaitOutcome}
    (hpolls : Polls r.answer Moment.now policy id start.now start.now start readings result stop)
    (hlength : readings.length ≤ policy.deadline ⌈/⌉ policy.interval + 1) :
    Bounds r policy id start stop result := by
  obtain ⟨hcount, hnumbered⟩ := readings_of_polls hpolls
  obtain ⟨front, last, rfl, hfront, hresult, hend⟩ := hpolls.exists_last
  simp only [List.length_append, List.length_singleton] at hlength hcount hnumbered
  rw [List.range'_1_concat, List.map_append, List.map_singleton] at hnumbered
  obtain ⟨hnumbers, hlast⟩ := List.append_inj' hnumbered rfl
  have hread : r.reply id (stop.reads - 1) = last := by
    rw [hcount, show start.reads + (front.length + 1) - 1 = start.reads + front.length by omega]
    exact (List.singleton_inj.mp hlast).symm
  have hgoing : ∀ k, start.reads ≤ k → k + 1 < stop.reads → ∃ job, r.reply id k = .ok job ∧
      (JobState.ofStatus job.status).isTerminal = false := by
    intro k hk hstop
    have hmem : r.reply id k ∈ front := by
      rw [hnumbers]
      exact List.mem_map_of_mem (List.mem_range'_1.mpr (by omega))
    obtain ⟨job, hjob, hunfinished⟩ := hfront _ hmem
    exact ⟨job, hjob, JobSummary.isFinished_ofCluster job ▸ hunfinished⟩
  have hreads : start.reads < stop.reads := by omega
  have hreads_le : stop.reads ≤ start.reads + (policy.deadline ⌈/⌉ policy.interval + 1) := by omega
  refine ⟨hreads, hreads_le, hgoing, fun e => ?_, fun job => ?_, fun job htimedOut => ?_,
    fun waited hwaited => ?_⟩
  · rw [hresult, hread, verdict_eq_error_iff]
  · rw [hresult, hread, verdict_eq_completed_iff, JobSummary.isFinished_ofCluster]
  · rw [hresult] at htimedOut
    obtain ⟨hunfinished, hlate⟩ := hend.late_of_timedOut htimedOut
    rw [JobSummary.isFinished_ofCluster] at hunfinished
    refine ⟨hlate, fun k hk hstop => ?_⟩
    by_cases hlater : k + 1 < stop.reads
    · exact hgoing k hk hlater
    · obtain rfl : k = stop.reads - 1 := by omega
      exact ⟨job, hread.trans (eq_of_verdict htimedOut), hunfinished⟩
  · rw [hresult] at hwaited
    exact hread.trans (eq_of_verdict hwaited)

end Readings

/-! ## The policies in use -/

theorem EngineConfig.isValid_syncPoll {config : EngineConfig} (h : config.validate = .ok ()) :
    config.syncPoll.IsValid := by
  rw [EngineConfig.validate] at h
  split at h
  · cases h
  · split at h
    · cases h
    · split at h
      · cases h
      · rename_i hinterval hdeadline
        exact ⟨Nat.pos_of_ne_zero hinterval, Nat.not_lt.mp hdeadline⟩

/-- Settings are checked last, and the namespace among them is that of the environment. -/
theorem EngineConfig.ofEnvironment_spec {env : Environment} {config : EngineConfig}
    (h : EngineConfig.ofEnvironment env = .ok config) :
    config.validate = .ok () ∧
      config.namespaceName =
        (env.setting? EngineConfig.namespaceVariable).getD standard.namespaceName := by
  obtain ⟨ttl, -, h⟩ := Outcome.bind_eq_ok.mp h
  obtain ⟨interval, -, h⟩ := Outcome.bind_eq_ok.mp h
  obtain ⟨timeout, -, h⟩ := Outcome.bind_eq_ok.mp h
  -- The form of log output is set or not; the settings are checked either way.
  split at h
  all_goals
    obtain ⟨logFormat, -, h⟩ := Outcome.bind_eq_ok.mp h
    obtain ⟨⟨⟩, hvalid, h⟩ := Outcome.bind_eq_ok.mp h
    cases h
    exact ⟨hvalid, rfl⟩

namespace Console

/-- The settings of the command line are checked once more. -/
theorem validate_of_settings {namespaceName : Option String} {env : Environment}
    {config : EngineConfig} (h : settings namespaceName env = .ok config) :
    config.validate = .ok () := by
  have hchecked : ∀ check : Except InputError Unit,
      check.mapError SettingsError.namespaceName = .ok () → check = .ok () := by
    rintro (e | ⟨⟩) hcheck
    · cases hcheck
    · rfl
  obtain ⟨base, -, h⟩ := Outcome.bind_eq_ok.mp h
  obtain ⟨⟨⟩, hvalid, h⟩ := Outcome.bind_eq_ok.mp h
  cases h
  exact hchecked _ hvalid

/-- The deadline of the command line leaves room for an interval. -/
theorem isValid_waitPolicy {engine : PollPolicy} (h : engine.IsValid) (timeout : Nat) :
    (waitPolicy engine timeout).IsValid :=
  ⟨h.1, Nat.le_max_right _ _⟩

end Console

/-! ## Every wait ends -/

/-- Whatever statuses show and however long it takes to read them, a wait ends within the readings
that its deadline has room for, and its answer is decided by the last one. The policies in use leave
time between two readings. -/
theorem waits_end :
    (∀ (policy : PollPolicy) (r : Readings) (id : String) (start : Moment), 0 < policy.interval →
      Readings.Bounds r policy id start ((Engine.waitFor policy id).run r.answer start).2
        ((Engine.waitFor policy id).run r.answer start).1 ∧
      ∀ extra, (Engine.pollFrom policy id start.now (policy.laterReads + extra) start.now).run
        r.answer start = (Engine.waitFor policy id).run r.answer start) ∧
    (∀ (env : Environment) (config : EngineConfig), EngineConfig.ofEnvironment env = .ok config →
      config.syncPoll.IsValid ∧ ∀ timeout, (Console.waitPolicy config.syncPoll timeout).IsValid) ∧
    ∀ (namespaceName : Option String) (env : Environment) (config : EngineConfig),
      Console.settings namespaceName env = .ok config →
      config.syncPoll.IsValid ∧ ∀ timeout, (Console.waitPolicy config.syncPoll timeout).IsValid := by
  refine ⟨fun policy r id start hinterval => ?_, fun env config h => ?_,
    fun namespaceName env config h => ?_⟩
  · obtain ⟨readings, hlength, hpolls, hextra⟩ :=
      r.keepsTime.polls_waitFor policy id hinterval start
    exact ⟨Readings.bounds_of_polls hpolls hlength, hextra⟩
  · have hvalid := EngineConfig.isValid_syncPoll (EngineConfig.ofEnvironment_spec h).1
    exact ⟨hvalid, Console.isValid_waitPolicy hvalid⟩
  · have hvalid := EngineConfig.isValid_syncPoll (Console.validate_of_settings h)
    exact ⟨hvalid, Console.isValid_waitPolicy hvalid⟩

/-- Slow readings of a job that is under way twice and has succeeded then. -/
def Readings.sluggish : Readings where
  reply id k := .ok {
    metadata := { name := some id }
    status := some (if k < 2 then { active := some 1 } else { succeeded := some 1 }) }
  latency _ := 30
  lateness _ := 0

/-- The third reading of four possible ones ends the wait. -/
theorem waits_end_sluggish :
    (∃ job, (Engine.waitFor ⟨100, 250⟩ "hello-00001").run Readings.sluggish.answer ⟨0, 0⟩ =
      (.ok (.completed job), ⟨230, 3⟩)) ∧
    Readings.Bounds .sluggish ⟨100, 250⟩ "hello-00001" ⟨0, 0⟩
      ((Engine.waitFor ⟨100, 250⟩ "hello-00001").run Readings.sluggish.answer ⟨0, 0⟩).2
      ((Engine.waitFor ⟨100, 250⟩ "hello-00001").run Readings.sluggish.answer ⟨0, 0⟩).1 ∧
    PollPolicy.standard.IsValid ∧ (Console.waitPolicy .standard 0).IsValid := by
  have hstandard : EngineConfig.ofEnvironment ∅ = .ok .standard := by decide
  have hsettings : Console.settings (some "team") ∅ =
      .ok { EngineConfig.standard with namespaceName := "team" } := by
    decide
  obtain ⟨hwait, henvironment, hconsole⟩ := waits_end
  exact ⟨⟨_, rfl⟩, (hwait ⟨100, 250⟩ .sluggish "hello-00001" ⟨0, 0⟩ (by decide)).1,
    (henvironment ∅ .standard hstandard).1, (hconsole (some "team") ∅ _ hsettings).2 0⟩

end TaskEngine
