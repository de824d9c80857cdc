import TaskEngine.Catalog.Runner
import TaskEngine.Catalog.Task
import TaskEngine.Proofs.Json.RecordForms
import TaskEngine.Proofs.Time.Text
import TaskEngine.Workload.CronJob
import TaskEngine.Workload.Deployment
import TaskEngine.Workload.Job

/-!
# Definitions read back from JSON

Runners, tasks and their summaries, scheduled jobs, deployments and job summaries are read back as what
was written, and so is whatever was read under an alias, with fields left out, among unknown fields or
from an array. The forms share one argument: what is read is proper, and proper values are read back
field by field. Only JSON null as a schema is not read back, since null stands for no schema.
-/

namespace TaskEngine

open Decode

namespace Runner

theorem decode_encode (r : Runner) : decode r.encode = .ok r := by
  obtain ⟨name, image, gitUrl, branch, token⟩ := r
  cases token <;> simp [decode, encode, rules]

theorem faithful : Faithful decode encode (fun _ => True) (fun _ => []) := by
  refine .of_record (fun _ => rfl) (fun r => ⟨_, rfl, ?_, ?_⟩) (fun r _ => r.decode_encode)
    fun _ _ _ => trivial
  · cases r.token <;> simp
  · cases r.token <;> simp

end Runner

namespace Task

theorem decode_encode {t : Task} (h : t.schema ≠ some .null) : decode t.encode = .ok t := by
  obtain ⟨name, runner, command, synchronous, schema, secret⟩ := t
  cases schema with
  | none => cases secret <;> simp [decode, encode, rules]
  | some j =>
    have hj : optional any j = .ok (some j) := optional_eq fun hnull => h (congrArg some hnull)
    cases secret <;> simp [decode, encode, rules, hj]

theorem schema_ne_null {j : Json} {t : Task} (h : decode j = .ok t) : t.schema ≠ some .null := by
  simp only [decode, Outcome.bind_eq_ok] at h
  obtain ⟨_, -, _, -, _, -, _, -, _, -, schema, hschema, secret, -, h⟩ := h
  cases h
  rintro ⟨⟩
  obtain ⟨j, hj, hany⟩ := Fields.exists_of_find hschema
  cases hany
  exact hj rfl

theorem faithful : Faithful decode encode (fun t => t.schema ≠ some .null)
    (fun t => t.schema.toList) := by
  refine .of_record (fun _ => rfl) (fun t => ⟨_, rfl, ?_, ?_⟩) (fun _ => decode_encode)
    fun _ _ => schema_ne_null
  · cases t.schema <;> cases t.secret <;> simp
  · cases t.schema <;> cases t.secret <;> simp

end Task

namespace TaskSummary

theorem decode_encode (t : TaskSummary) : decode t.encode = .ok t := by
  simp [decode, encode, rules]

theorem faithful : Faithful decode encode (fun _ => True) (fun _ => []) :=
  .of_record (fun _ => rfl) (fun t => ⟨_, rfl, by simp, by simp⟩) (fun t _ => t.decode_encode)
    fun _ _ _ => trivial

end TaskSummary

namespace CronJob

theorem decode_encode (c : CronJob) : decode c.encode = .ok c := by
  obtain ⟨name, owner, task, schedule, disabled, extraVars⟩ := c
  cases extraVars <;> simp [decode, encode, rules]

theorem faithful : Faithful decode encode (fun _ => True)
    (fun c => (c.extraVars.map Json.ofDict).toList) := by
  refine .of_record (fun _ => rfl) (fun c => ⟨_, rfl, ?_, ?_⟩) (fun c _ => c.decode_encode)
    fun _ _ _ => trivial
  · cases c.extraVars <;> simp
  · cases c.extraVars <;> simp

end CronJob

namespace Deployment

theorem decode_encode {d : Deployment} (h : IsInt32 d.replicas) : decode d.encode = .ok d := by
  obtain ⟨name, owner, task, replicas, extraVars⟩ := d
  have hreplicas : int32 (.ofInt replicas) = .ok replicas := int32_ofInt h
  cases extraVars <;> simp [decode, encode, rules, hreplicas]

theorem isInt32_replicas {j : Json} {d : Deployment} (h : decode j = .ok d) :
    IsInt32 d.replicas := by
  simp only [decode, Outcome.bind_eq_ok] at h
  obtain ⟨_, -, _, -, _, -, _, -, replicas, hreplicas, _, -, h⟩ := h
  cases h
  obtain ⟨j, hj⟩ := Fields.exists_of_get hreplicas
  exact isInt32_of_int32 hj

theorem faithful : Faithful decode encode (fun d => IsInt32 d.replicas)
    (fun d => (d.extraVars.map Json.ofDict).toList) := by
  refine .of_record (fun _ => rfl) (fun d => ⟨_, rfl, ?_, ?_⟩) (fun _ => decode_encode)
    fun _ _ => isInt32_replicas
  · cases d.extraVars <;> simp
  · intro hreplicas
    cases d.extraVars <;> simp [Json.isLegible_ofInt hreplicas]

end Deployment

namespace JobSummary

/-- What the fields of a summary can hold: points in time of the calendar and counters of 32 bits. -/
structure IsProper (s : JobSummary) : Prop where
  startTime : ∀ t, s.startTime = some t → t.IsRepresentable
  completionTime : ∀ t, s.completionTime = some t → t.IsRepresentable
  failed : IsInt32 s.failed
  completed : IsInt32 s.completed

theorem optional_instant {t : Instant} (h : t.IsRepresentable) :
    optional Instant.decode t.encode = .ok (some t) := by
  rw [optional_eq (by rw [Instant.encode]; exact Json.noConfusion), Instant.decode_encode h]
  rfl

theorem decode_encode {s : JobSummary} (h : s.IsProper) : decode s.encode = .ok s := by
  obtain ⟨id, owner, startTime, completionTime, failed, completed, state⟩ := s
  have hfailed : int32 (.ofInt failed) = .ok failed := int32_ofInt h.failed
  have hcompleted : int32 (.ofInt completed) = .ok completed := int32_ofInt h.completed
  have hstate : JobState.decode state.encode = .ok state := by cases state <;> rfl
  have htime : ∀ t, startTime = some t ∨ completionTime = some t →
      optional Instant.decode t.encode = .ok (some t) := fun t ht =>
    optional_instant (ht.elim (h.startTime t) (h.completionTime t))
  cases startTime <;> cases completionTime <;>
    simp [decode, encode, fields, ofFields, rules, hfailed, hcompleted, hstate, htime]

theorem isRepresentable_of_find {f : Fields} {name : String} {time : Option Instant} {t : Instant}
    (h : f.find name Instant.decode = .ok time) (ht : time = some t) : t.IsRepresentable := by
  obtain ⟨j, -, hj⟩ := Fields.exists_of_find (ht ▸ h)
  exact Instant.isRepresentable_of_decode hj

theorem isProper_of_ofFields {f : Fields} {s : JobSummary} (h : ofFields f = .ok s) :
    s.IsProper := by
  simp only [ofFields, Outcome.bind_eq_ok] at h
  obtain ⟨_, -, _, -, _, hstart, _, hcompletion, _, hfailed, _, hcompleted, _, -, h⟩ := h
  cases h
  obtain ⟨_, hfailed⟩ := Fields.exists_of_get hfailed
  obtain ⟨_, hcompleted⟩ := Fields.exists_of_get hcompleted
  exact ⟨fun _ => isRepresentable_of_find hstart, fun _ => isRepresentable_of_find hcompletion,
    isInt32_of_int32 hfailed, isInt32_of_int32 hcompleted⟩

theorem isProper_of_decode {j : Json} {s : JobSummary} (h : decode j = .ok s) : s.IsProper := by
  obtain ⟨_, -, hfields⟩ := Outcome.bind_eq_ok.mp h
  exact isProper_of_ofFields hfields

theorem writes_fields (s : JobSummary) : Writes s.fields s.IsProper [] where
  nodup := by
    cases hstart : s.startTime <;> cases hcompletion : s.completionTime <;>
      simp [fields, hstart, hcompletion]
  legible hs _ := by
    cases hstart : s.startTime <;> cases hcompletion : s.completionTime <;>
      simp [fields, hstart, hcompletion, Instant.encode, JobState.encode,
        Json.isLegible_ofInt hs.failed, Json.isLegible_ofInt hs.completed]

theorem faithful : Faithful decode encode IsProper (fun _ => []) :=
  .of_record (fun _ => rfl) (fun s => ⟨_, rfl, s.writes_fields⟩) (fun _ => decode_encode)
    fun _ _ => isProper_of_decode

end JobSummary

/-- Definitions and job summaries are read back from their JSON forms. -/
theorem definitions_faithful :
    Faithful Runner.decode Runner.encode (fun _ => True) (fun _ => []) ∧
      Faithful Task.decode Task.encode (fun t => t.schema ≠ some .null) (fun t => t.schema.toList) ∧
      Faithful TaskSummary.decode TaskSummary.encode (fun _ => True) (fun _ => []) ∧
      Faithful CronJob.decode CronJob.encode (fun _ => True)
        (fun c => (c.extraVars.map Json.ofDict).toList) ∧
      Faithful Deployment.decode Deployment.encode (fun d => IsInt32 d.replicas)
        (fun d => (d.extraVars.map Json.ofDict).toList) ∧
      Faithful JobSummary.decode JobSummary.encode JobSummary.IsProper (fun _ => []) :=
  ⟨Runner.faithful, Task.faithful, TaskSummary.faithful, CronJob.faithful, Deployment.faithful,
    JobSummary.faithful⟩

/-- A schedule in its former spelling, with a field that is not known. -/
def formerChime : Json :=
  .obj [("id", .str "chime"), ("task", .str "hello"), ("schedule", .str "0 * * * *"),
    ("disable", .bool true), ("color", .null)]

/-- The schedule that the former spelling stands for. -/
def chime : CronJob := ⟨"chime", "", "hello", "0 * * * *", true, none⟩

/-- A job that was over within a leap second. -/
def lastOfTheYear : JobSummary where
  id := "hello-00001"
  owner := "alice"
  startTime := some ⟨1483228790, 0⟩
  completionTime := some ⟨1483228799, 1500000000⟩
  failed := 0
  completed := 1
  state := .succeeded

/-- A schedule in its former spelling is settled by one reading, and a leap second is read back. -/
theorem definitions_faithful_former :
    (CronJob.decode formerChime = .ok chime ∧ CronJob.decode chime.encode = .ok chime ∧
        ReadsFrom CronJob.decode chime.encode.pretty chime) ∧
      JobSummary.decode lastOfTheYear.encode = .ok lastOfTheYear ∧
        ReadsFrom JobSummary.decode lastOfTheYear.encode.compact lastOfTheYear := by
  obtain ⟨-, -, -, hcron, -, hsummary⟩ := definitions_faithful
  have hproper : lastOfTheYear.IsProper := by
    refine ⟨?_, ?_, by decide, by decide⟩
    · rintro t ⟨⟩
      exact ⟨by decide, by decide, by decide, by decide⟩
    · rintro t ⟨⟩
      exact ⟨by decide, by decide, by decide, by decide⟩
  have hchime : CronJob.decode formerChime = .ok chime := rfl
  exact ⟨⟨hchime, hcron.again _ _ hchime, (hcron.text chime trivial (by simp [chime])).2⟩,
    (hsummary.value _).mpr hproper, (hsummary.text _ hproper (by simp)).1⟩

end TaskEngine
