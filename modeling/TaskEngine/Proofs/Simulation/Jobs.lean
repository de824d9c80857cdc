import TaskEngine.Proofs.Simulation.Course
import TaskEngine.Proofs.Simulation.History

/-!
# Simulated jobs and their histories

A job is made once, under the script that is then in force, and after that only reads of its status
change it, until it is removed. So what the script says and how often the status was read determine
what the status shows, except for the times in it.
-/

namespace TaskEngine

namespace SimulatedJob

variable {j : SimulatedJob}

/-- The job after reads of its status at these times. -/
def readAt (j : SimulatedJob) (times : List Instant) : SimulatedJob :=
  times.foldl (fun j now => j.read now) j

/-! ## Many reads -/

theorem fixed_readAt (times : List Instant) (j : SimulatedJob) :
    (j.readAt times).fixed = j.fixed := by
  induction times generalizing j with
  | nil => rfl
  | cons now times ih => exact (ih (j.read now)).trans (j.fixed_read now)

theorem script_readAt (times : List Instant) (j : SimulatedJob) :
    (j.readAt times).script = j.script :=
  congrArg (·.2.2) (j.fixed_readAt times)

theorem reads_readAt (times : List Instant) (j : SimulatedJob) :
    (j.readAt times).reads = j.reads + times.length := by
  induction times generalizing j with
  | nil => rfl
  | cons now times ih =>
    have hrest : (j.readAt (now :: times)).reads = (j.read now).reads + times.length :=
      ih (j.read now)
    rw [hrest, reads_read, List.length_cons]
    omega

theorem readAt_append (first second : List Instant) (j : SimulatedJob) :
    j.readAt (first ++ second) = (j.readAt first).readAt second := by
  unfold readAt
  rw [List.foldl_append]

theorem Follows.readAt (h : j.Follows) (times : List Instant) : (j.readAt times).Follows := by
  induction times generalizing j with
  | nil => exact h
  | cons now times ih => exact ih (h.read now)

/-- Once a job is over, no number of reads changes what others see of it. -/
theorem Follows.job_readAt (h : j.Follows) (hover : j.script.IsOver j.reads)
    (times : List Instant) : (j.readAt times).job = j.job := by
  induction times generalizing j with
  | nil => rfl
  | cons now times ih =>
    have hmore : (j.read now).script.IsOver (j.read now).reads := by
      rw [script_read, reads_read]
      exact hover.mono (Nat.le_succ _)
    exact (ih (h.read now) hmore).trans (h.job_read now hover)

/-! ## Jobs along a history -/

/-- A job is still there after a history, with the reads of its status that were made meanwhile. -/
structure Persists (history : List Happening) (id : String) (j k : SimulatedJob) : Prop where
  kept : ∀ happening ∈ history, happening.removes id = false
  read : ∃ times : List Instant, times.length = history.countP (·.reads id) ∧ k = j.readAt times

namespace Persists

variable {history : List Happening} {happening : Happening} {id : String} {i j k : SimulatedJob}

theorem refl (id : String) (j : SimulatedJob) : Persists [] id j j where
  kept := by simp
  read := ⟨[], rfl, rfl⟩

/-- A step that is not about the job leaves it as it was. -/
theorem of_other (hremoves : happening.removes id = false) (hreads : happening.reads id = false) :
    Persists [happening] id j j where
  kept := by simpa using hremoves
  read := ⟨[], by simp [hreads], rfl⟩

/-- A step that reads the status of the job is one read of it. -/
theorem of_read (hremoves : happening.removes id = false) (hreads : happening.reads id = true)
    (now : Instant) : Persists [happening] id j (j.read now) where
  kept := by simpa using hremoves
  read := ⟨[now], by simp [hreads], rfl⟩

/-- A job that persists in a step and from then on does so along the whole history. -/
theorem cons (first : Persists [happening] id i j) (rest : Persists history id j k) :
    Persists (happening :: history) id i k where
  kept := List.forall_mem_cons.mpr ⟨first.kept happening (List.mem_singleton_self _), rest.kept⟩
  read := by
    obtain ⟨once, hone, rfl⟩ := first.read
    obtain ⟨times, hlength, rfl⟩ := rest.read
    refine ⟨once ++ times, ?_, (readAt_append once times i).symm⟩
    rw [List.length_append, hone, hlength, ← List.countP_append, List.singleton_append]

variable (h : Persists history id j k)

include h

theorem script_eq : k.script = j.script := by
  obtain ⟨times, -, rfl⟩ := h.read
  exact j.script_readAt times

theorem reads_eq : k.reads = j.reads + history.countP (·.reads id) := by
  obtain ⟨times, hlength, rfl⟩ := h.read
  rw [reads_readAt, hlength]

theorem follows (hfollows : j.Follows) : k.Follows := by
  obtain ⟨times, -, rfl⟩ := h.read
  exact hfollows.readAt times

/-- Once a job is over, others see no change of it. -/
theorem job_eq (hfollows : j.Follows) (hover : j.script.IsOver j.reads) : k.job = j.job := by
  obtain ⟨times, -, rfl⟩ := h.read
  exact hfollows.job_readAt hover times

end Persists

end SimulatedJob

namespace Simulator

variable {s t : Simulator} {id : String} {happening : Happening} {history : List Happening}
  {j k : SimulatedJob}

theorem jobs_withJob (s : Simulator) (now : Instant) (job : Cluster.Job) (name : String) :
    (s.withJob now job name).jobs = s.jobs.insert name (s.made now job name) := rfl

theorem jobs_removeJob (s : Simulator) (name : String) :
    (s.removeJob name).jobs = s.jobs.erase name := rfl

/-- A job that a step does not remove is there afterwards. -/
theorem Effect.kept (h : s.Effect happening t) (hj : s.jobs.get? id = some j)
    (hkept : happening.removes id = false) :
    ∃ k, t.jobs.get? id = some k ∧ SimulatedJob.Persists [happening] id j k := by
  cases h with
  | @made now job name free =>
    refine ⟨j, ?_, .of_other rfl rfl⟩
    rw [jobs_withJob, Dict.get?_insert, if_neg, hj]
    rintro rfl
    rw [free] at hj
    cases hj
  | @read now name held hheld =>
    by_cases hname : name = id
    · subst hname
      cases hj.symm.trans hheld
      exact ⟨j.read now, (Dict.get?_insert ..).trans (if_pos rfl),
        .of_read rfl (by simp [Happening.reads, Except.isOk, Except.toBool]) now⟩
    · exact ⟨j, (Dict.get?_insert ..).trans ((if_neg hname).trans hj),
        .of_other rfl (by simp [Happening.reads, hname])⟩
  | @removed name held hheld =>
    have hname : name ≠ id := by
      rintro rfl
      simp [Happening.removes, Except.isOk, Except.toBool] at hkept
    refine ⟨j, ?_, .of_other hkept rfl⟩
    rw [jobs_removeJob, Dict.get?_erase, if_neg hname, hj]
  | other jobs script mutations reads removes =>
    exact ⟨j, by rw [jobs, hj], .of_other hkept (reads id)⟩

/-- A job that is there after a step was there before, or the step has made it. -/
theorem Effect.origin (h : s.Effect happening t) (hk : t.jobs.get? id = some k) :
    (∃ j, s.jobs.get? id = some j ∧ SimulatedJob.Persists [happening] id j k) ∨
      ∃ now submitted,
        happening = .answered (.createJob submitted) (.ok (s.made now submitted id).job) ∧
          k = s.made now submitted id := by
  cases h with
  | @made now job name free =>
    rw [jobs_withJob, Dict.get?_insert] at hk
    split at hk
    · rename_i hname
      subst hname
      exact .inr ⟨now, job, rfl, (Option.some.inj hk).symm⟩
    · exact .inl ⟨k, hk, .of_other rfl rfl⟩
  | @read now name held hheld =>
    change (s.jobs.insert name (held.read now)).get? id = some k at hk
    rw [Dict.get?_insert] at hk
    split at hk
    · rename_i hname
      subst hname
      cases hk
      exact .inl ⟨held, hheld,
        .of_read rfl (by simp [Happening.reads, Except.isOk, Except.toBool]) now⟩
    · rename_i hname
      exact .inl ⟨k, hk, .of_other rfl (by simp [Happening.reads, hname])⟩
  | @removed name held hheld =>
    rw [jobs_removeJob, Dict.get?_erase] at hk
    split at hk
    · cases hk
    · rename_i hname
      exact .inl ⟨k, hk, .of_other (by simp [Happening.removes, hname]) rfl⟩
  | other jobs script mutations reads removes =>
    rw [jobs] at hk
    exact .inl ⟨k, hk, .of_other (removes id) (reads id)⟩

/-- A job that is not removed along a history is there at its end. -/
theorem Undergoes.kept (h : s.Undergoes history t) (hj : s.jobs.get? id = some j)
    (hkept : ∀ happening ∈ history, happening.removes id = false) :
    ∃ k, t.jobs.get? id = some k ∧ SimulatedJob.Persists history id j k := by
  induction h generalizing j with
  | idle s => exact ⟨j, hj, .refl id j⟩
  | step first rest ih =>
    obtain ⟨hfirst, hrest⟩ := List.forall_mem_cons.mp hkept
    obtain ⟨i, hi, honce⟩ := first.effect.kept hj hfirst
    obtain ⟨k, hk, hlater⟩ := ih hi hrest
    exact ⟨k, hk, honce.cons hlater⟩

/-- A job that is there at the end of a history was there at its beginning, or it was made along the
history and is there since then. -/
theorem Undergoes.origin (h : s.Undergoes history t) (hk : t.jobs.get? id = some k) :
    (∃ j, s.jobs.get? id = some j ∧ SimulatedJob.Persists history id j k) ∨
      ∃ before u now submitted since,
        history = before ++
          .answered (.createJob submitted) (.ok (u.made now submitted id).job) :: since ∧
        s.Undergoes before u ∧
        SimulatedJob.Persists since id (u.made now submitted id) k := by
  -- The history is taken apart from its first step, so a job is followed back to where it was made.
  induction h with
  | idle s => exact .inl ⟨k, hk, .refl id k⟩
  | @step s t u happening history first rest ih =>
    rcases ih hk with ⟨j, hj, hlater⟩ | ⟨before, v, now, submitted, since, rfl, hbefore, hsince⟩
    · rcases first.effect.origin hj with ⟨i, hi, honce⟩ | ⟨now, submitted, rfl, rfl⟩
      · exact .inl ⟨i, hi, honce.cons hlater⟩
      · exact .inr ⟨[], s, now, submitted, history, rfl, .idle s, hlater⟩
    · exact .inr ⟨happening :: before, v, now, submitted, since, rfl, .step first hbefore, hsince⟩

end Simulator

end TaskEngine
