import TaskEngine.Proofs.Run

/-!
# What loading finds

Loads and reads of secrets change nothing, so each is a function of the stored records. Preparing a
launch is one as well, up to the count of rejected input.
-/

namespace TaskEngine

open Engine

/-! ## Records of definitions -/

/-- A field is filled in exactly when its text is there and not empty. -/
theorem Record.filled?_eq_some_iff {record : Record} {key value : String} :
    record.filled? key = some value ↔ record.get? key = some value ∧ value ≠ "" := by
  rw [Record.filled?]
  cases record.get? key with
  | none => simp
  | some stored =>
    by_cases he : stored = ""
    · subst he
      simp
    · have hempty : stored.isEmpty = false := by simpa using he
      simp only [hempty, Bool.false_eq_true, if_false, Option.some.injEq]
      exact ⟨fun h => ⟨h, h ▸ he⟩, fun h => h.1⟩

theorem Record.isSome_filled?_iff {record : Record} {key : String} :
    (record.filled? key).isSome = true ↔ record.field key ≠ "" := by
  rw [Option.isSome_iff_exists, Record.field]
  cases hget : record.get? key with
  | none => simp [Record.filled?, hget]
  | some stored => simp [Record.filled?_eq_some_iff, hget]

/-- A record describes a runner exactly when its image is filled in. -/
theorem Runner.isRecord_iff {record : Record} :
    Runner.isRecord record = true ↔ record.field "image" ≠ "" := Record.isSome_filled?_iff

/-- A record describes a task exactly when its runner is filled in. -/
theorem Task.isRecord_iff {record : Record} :
    Task.isRecord record = true ↔ record.field "runner" ≠ "" := Record.isSome_filled?_iff

/-- A text that is not blank is not empty. -/
theorem Text.ne_empty_of_isBlank_eq_false {text : String} (h : Text.isBlank text = false) :
    text ≠ "" := by
  rintro rfl
  simp [Text.isBlank] at h

@[simp] theorem Runner.field_image_toRecord (r : Runner) : r.toRecord.field "image" = r.image := by
  simp [Runner.toRecord, Record.field, Dict.ofList, Dict.insertAll]

@[simp] theorem Runner.field_runner_toRecord (r : Runner) : r.toRecord.field "runner" = "" := by
  simp [Runner.toRecord, Record.field, Dict.ofList, Dict.insertAll]

@[simp] theorem Task.field_image_toRecord (t : Task) : t.toRecord.field "image" = "" := by
  simp [Task.toRecord, Record.field, Dict.ofList, Dict.insertAll]

@[simp] theorem Task.field_runner_toRecord (t : Task) : t.toRecord.field "runner" = t.runner := by
  simp [Task.toRecord, Record.field, Dict.ofList, Dict.insertAll]

/-- What a task record tells of its task, whatever its schema. -/
theorem Task.ofRecord_fields {name : String} {record : Record} {t : Task}
    (h : Task.ofRecord name record = .ok t) :
    t.name = name ∧ t.runner = record.field "runner" ∧ t.command = record.field "command" ∧
      t.secret = none := by
  simp only [Task.ofRecord] at h
  split at h
  · cases h
    exact ⟨rfl, rfl, rfl, rfl⟩
  · split at h
    · cases h
      exact ⟨rfl, rfl, rfl, rfl⟩
    · cases h

namespace World

variable {w : World}

/-! ## Loads -/

/-- What loading a task finds. -/
def taskNamed (w : World) (name : String) : Outcome Task :=
  match w.catalog.records.get? name with
  | some record =>
    if Task.isRecord record then Task.ofRecord name record
    else .error (.notFound taskResource name)
  | none => .error (.notFound taskResource name)

/-- What loading a runner finds. -/
def runnerNamed (w : World) (name : String) : Outcome Runner :=
  match w.catalog.records.get? name with
  | some record =>
    if Runner.isRecord record then .ok (Runner.ofRecord name record)
    else .error (.notFound runnerResource name)
  | none => .error (.notFound runnerResource name)

theorem run_loadTask (h : w.StoresHold) (name : String) :
    w.run (loadTask name) = (w.taskNamed name, w) := by
  rw [loadTask, run_bind_of_ok (run_catalog_get h name), taskNamed]
  cases w.catalog.records.get? name with
  | none => rfl
  | some record =>
    cases hrecord : Task.isRecord record <;> simp [hrecord]

theorem run_loadRunner (h : w.StoresHold) (name : String) :
    w.run (loadRunner name) = (w.runnerNamed name, w) := by
  rw [loadRunner, run_bind_of_ok (run_catalog_get h name), runnerNamed]
  cases w.catalog.records.get? name with
  | none => rfl
  | some record =>
    cases hrecord : Runner.isRecord record <;> simp [hrecord]

/-- A task that loads has a task record that reads. -/
theorem taskNamed_eq_ok {name : String} {t : Task} (h : w.taskNamed name = .ok t) :
    ∃ record, w.catalog.records.get? name = some record ∧ Task.isRecord record = true ∧
      Task.ofRecord name record = .ok t := by
  rw [taskNamed] at h
  split at h
  · rename_i record hget
    split at h
    · rename_i hrecord
      exact ⟨record, hget, hrecord, h⟩
    · cases h
  · cases h

/-- A runner that loads has a runner record. -/
theorem runnerNamed_eq_ok {name : String} {r : Runner} (h : w.runnerNamed name = .ok r) :
    ∃ record, w.catalog.records.get? name = some record ∧ Runner.isRecord record = true ∧
      r = Runner.ofRecord name record := by
  rw [runnerNamed] at h
  split at h
  · rename_i record hget
    split at h
    · rename_i hrecord
      cases h
      exact ⟨record, hget, hrecord, rfl⟩
    · cases h
  · cases h

/-! ## Reads of secrets -/

theorem run_redactedSecret (h : w.StoresHold) (name : String) :
    w.run (redactedSecret name) = (.ok ((w.secrets.records.get? name).map Secret.redact), w) := by
  rw [redactedSecret, run_bind_of_ok (run_secrets_get h name)]
  rfl

/-- The kind of the owner of a secret, as far as the catalog knows it. -/
def ownerOf (w : World) (name : String) : Outcome ResourceKind :=
  match w.catalog.records.get? name with
  | some record =>
    if Runner.isRecord record then .ok .runners
    else if Task.isRecord record then .ok .tasks
    else .error (.notFound ownerResource name)
  | none => .error (.notFound ownerResource name)

theorem run_ownerKind (h : w.StoresHold) (name : String) :
    w.run (ownerKind name) = (w.ownerOf name, w) := by
  rw [ownerKind, run_bind_of_ok (run_catalog_get h name), ownerOf]
  cases w.catalog.records.get? name with
  | none => rfl
  | some record =>
    cases hrunner : Runner.isRecord record with
    | true => simp [hrunner]
    | false => cases htask : Task.isRecord record <;> simp [hrunner, htask]

/-- A runner with the stand-in in place of a stored token. -/
def shownRunner (w : World) (r : Runner) : Runner :=
  if (w.secrets.records.get? r.name).any (·.contains Runner.tokenKey) then
    { r with token := some Secret.standIn }
  else r

theorem run_getRunner (h : w.StoresHold) (name : String) :
    w.run (getRunner name) = ((w.runnerNamed name).map w.shownRunner, w) := by
  rw [getRunner, run_bind, run_loadRunner h]
  cases hload : w.runnerNamed name with
  | error e => rfl
  | ok r =>
    obtain ⟨record, -, -, rfl⟩ := runnerNamed_eq_ok hload
    simp only [run_bind, run_secrets_get h, Outcome.map_ok, shownRunner]
    split <;> rename_i htoken <;> simp [Runner.ofRecord, htoken]

/-- A task with stand-ins in place of its stored secret values. -/
def shownTask (w : World) (t : Task) : Task :=
  { t with secret := (w.secrets.records.get? t.name).map Secret.redact }

theorem run_getTask (h : w.StoresHold) (name : String) :
    w.run (getTask name) = ((w.taskNamed name).map w.shownTask, w) := by
  rw [getTask, run_bind, run_loadTask h]
  cases hload : w.taskNamed name with
  | error e => rfl
  | ok t =>
    obtain ⟨record, -, -, hread⟩ := taskNamed_eq_ok hload
    obtain ⟨hname, -, -, -⟩ := Task.ofRecord_fields hread
    simp only [run_bind, run_redactedSecret h, Outcome.map_ok, shownTask, hname]
    rfl

/-! ## Preparation -/

/-- What preparing a launch finds. -/
def prepared (w : World) (taskName : String) (vars : Option String) : Outcome Preparation := do
  let task ← w.taskNamed taskName
  let runner ← w.runnerNamed task.runner
  let extraVars := vars.filter fun raw => !Text.isBlank raw
  Schema.judge task.schema extraVars
  return {
    task, runner, extraVars
    token := (w.secrets.records.get? runner.name).bind (Record.filled? · Runner.tokenKey) }

/-- Preparing a launch changes nothing but the count of rejected input. -/
theorem run_prepare (h : w.StoresHold) (taskName : String) (vars : Option String) :
    ∃ metrics, w.run (prepare taskName vars) = (w.prepared taskName vars, { w with metrics }) := by
  rw [prepare, run_bind, run_loadTask h, prepared]
  cases w.taskNamed taskName with
  | error e => exact ⟨w.metrics, rfl⟩
  | ok task =>
    simp only [run_bind, run_loadRunner h, Outcome.ok_bind]
    cases w.runnerNamed task.runner with
    | error e => exact ⟨w.metrics, rfl⟩
    | ok runner =>
      cases hjudge : Schema.judge task.schema (vars.filter fun raw => !Text.isBlank raw) with
      | error e => exact ⟨w.metrics ++ [.rejected], rfl⟩
      | ok u =>
        refine ⟨w.metrics, ?_⟩
        simp only [run_bind, run_secrets_get h, Outcome.ok_bind]
        rfl

/-! ## Preparation where anything may fail -/

/-- A look-up in the catalog fails or finds what is stored. -/
theorem run_catalog_get_cases (w : World) (name : String) :
    (∃ e, w.run (Procedure.catalog (.get name)) = (.error e, w)) ∨
      w.run (Procedure.catalog (.get name)) = (.ok (w.catalog.records.get? name), w) := by
  rw [run_catalog, guarded]
  split
  · exact .inl ⟨_, rfl⟩
  · exact .inr rfl

/-- A look-up of a secret fails or finds what is stored. -/
theorem run_secrets_get_cases (w : World) (name : String) :
    (∃ e, w.run (Procedure.secrets (.get name)) = (.error e, w)) ∨
      w.run (Procedure.secrets (.get name)) = (.ok (w.secrets.records.get? name), w) := by
  rw [run_secrets, guarded]
  split
  · exact .inl ⟨_, rfl⟩
  · exact .inr rfl

/-- A procedure that leaves everything as it is either fails, or succeeds with what was expected. -/
def FindsOrFails {α : Type} (w : World) (p : Procedure α) (expected : Outcome α) : Prop :=
  (∃ e, w.run p = (.error e, w)) ∨ ∃ a, expected = .ok a ∧ w.run p = (.ok a, w)

theorem findsOrFails_loadTask (w : World) (name : String) :
    w.FindsOrFails (loadTask name) (w.taskNamed name) := by
  rcases run_catalog_get_cases w name with ⟨e, hfail⟩ | hget
  · exact .inl ⟨e, run_bind_of_error hfail _⟩
  · rw [FindsOrFails, loadTask, run_bind_of_ok hget, taskNamed]
    cases w.catalog.records.get? name with
    | none => exact .inl ⟨_, rfl⟩
    | some record =>
      cases hrecord : Task.isRecord record with
      | false => exact .inl ⟨.notFound taskResource name, by simp [hrecord]⟩
      | true =>
        simp only [hrecord, if_true, run_lift]
        cases Task.ofRecord name record with
        | error e => exact .inl ⟨e, rfl⟩
        | ok t => exact .inr ⟨t, rfl, rfl⟩

theorem findsOrFails_loadRunner (w : World) (name : String) :
    w.FindsOrFails (loadRunner name) (w.runnerNamed name) := by
  rcases run_catalog_get_cases w name with ⟨e, hfail⟩ | hget
  · exact .inl ⟨e, run_bind_of_error hfail _⟩
  · rw [FindsOrFails, loadRunner, run_bind_of_ok hget, runnerNamed]
    cases w.catalog.records.get? name with
    | none => exact .inl ⟨_, rfl⟩
    | some record =>
      cases hrecord : Runner.isRecord record with
      | false => exact .inl ⟨.notFound runnerResource name, by simp [hrecord]⟩
      | true => exact .inr ⟨Runner.ofRecord name record, by simp [hrecord], by simp [hrecord]⟩

/-- Whatever fails, a launch that is prepared is the one that is expected, and preparing it changes
nothing but the count of rejected input. -/
theorem run_prepare_cases (w : World) (taskName : String) (vars : Option String) :
    ∃ metrics, (∃ e, w.run (prepare taskName vars) = (.error e, { w with metrics })) ∨
      ∃ ready, w.prepared taskName vars = .ok ready ∧
        w.run (prepare taskName vars) = (.ok ready, { w with metrics }) := by
  rw [prepare, prepared]
  rcases findsOrFails_loadTask w taskName with ⟨e, hfail⟩ | ⟨task, htask, hload⟩
  · exact ⟨w.metrics, .inl ⟨e, run_bind_of_error hfail _⟩⟩
  rw [run_bind_of_ok hload, htask, Outcome.ok_bind]
  rcases findsOrFails_loadRunner w task.runner with ⟨e, hfail⟩ | ⟨runner, hrunner, hload⟩
  · exact ⟨w.metrics, .inl ⟨e, run_bind_of_error hfail _⟩⟩
  rw [run_bind_of_ok hload, hrunner, Outcome.ok_bind]
  cases hjudge : Schema.judge task.schema (vars.filter fun raw => !Text.isBlank raw) with
  | error e => exact ⟨w.metrics ++ [.rejected], .inl ⟨e, by simp only [hjudge]; rfl⟩⟩
  | ok u =>
    simp only [hjudge]
    rcases run_secrets_get_cases w runner.name with ⟨e, hfail⟩ | hget
    · exact ⟨w.metrics, .inl ⟨e, run_bind_of_error hfail _⟩⟩
    · exact ⟨w.metrics, .inr ⟨_, rfl, run_bind_of_ok hget _⟩⟩

end World

end TaskEngine
