import TaskEngine.Proofs.Engine.Origins
import TaskEngine.Proofs.Integrity
import TaskEngine.Proofs.Json.RoundTrip

/-!
# Stored definitions

Every record of the catalog is the record of a valid definition of its name. Reading it gives that
definition back: that of a runner with the branch that is cloned, that of a task with the schema as
its text is read. What a definition keeps elsewhere, its token or its secret values, is not in it.
-/

namespace TaskEngine

open Engine

/-! ## Records read back -/

/-- A branch that is cloned is given. -/
theorem Runner.effectiveBranch_ne_empty (r : Runner) : r.effectiveBranch ≠ "" := by
  rw [Runner.effectiveBranch]
  split
  · decide
  · rename_i hgiven
    simpa using hgiven

/-- A runner is read back from its record, with the branch that is cloned and without its token. -/
theorem Runner.ofRecord_toRecord (r : Runner) :
    Runner.ofRecord r.name r.toRecord = { r with branch := r.effectiveBranch, token := none } := by
  have himage : r.toRecord.field "image" = r.image := r.field_image_toRecord
  have hgitUrl : r.toRecord.field "gitURL" = r.gitUrl := by
    simp [Runner.toRecord, Record.field, Dict.ofList, Dict.insertAll]
  have hbranch : r.toRecord.field "branch" = r.effectiveBranch := by
    simp [Runner.toRecord, Record.field, Dict.ofList, Dict.insertAll]
  simp [Runner.ofRecord, himage, hgitUrl, hbranch, r.effectiveBranch_ne_empty]

/-- Naming the branch that is cloned anyway makes no other record. -/
theorem Runner.toRecord_effectiveBranch (r : Runner) (token : Option String) :
    { r with branch := r.effectiveBranch, token }.toRecord = r.toRecord := by
  have hsame : { r with branch := r.effectiveBranch, token }.effectiveBranch = r.effectiveBranch := by
    rw [Runner.effectiveBranch]
    exact if_neg (by simpa using r.effectiveBranch_ne_empty)
  rw [Runner.toRecord, hsame]
  rfl

/-- Naming the branch that is cloned anyway makes no difference to what is wrong with a runner. -/
theorem Runner.validate_effectiveBranch (r : Runner) (token : Option String) :
    { r with branch := r.effectiveBranch, token }.validate = r.validate := by
  have hbranch : hasShellSyntax r.effectiveBranch = hasShellSyntax r.branch := by
    rw [Runner.effectiveBranch]
    split
    · rename_i hempty
      rw [String.isEmpty_iff.mp hempty]
      decide
    · rfl
  have hfindings : { r with branch := r.effectiveBranch, token }.findings = r.findings := by
    rw [Runner.findings, hbranch]
    rfl
  rw [Runner.validate, hfindings]
  rfl

/-- The schema of a task as it is read back from a record. -/
def Task.reread? (t : Task) : Option (Option Json) :=
  match t.schema with
  | none => some none
  | some schema => (Json.read? schema.compact).map some

/-- A task is read back from its record as far as its schema is, and without its secret values. -/
theorem Task.ofRecord_toRecord (t : Task) :
    Task.ofRecord t.name t.toRecord = match t.reread? with
      | some schema => .ok { t with schema, secret := none }
      | none => .error (.serialization (malformedSchema t.name ++ "not a JSON text")) := by
  have hcommand : t.toRecord.field "command" = t.command := by
    simp [Task.toRecord, Record.field, Dict.ofList, Dict.insertAll]
  have hsynchronous : (t.toRecord.filled? "synchronous").any (Text.sameIgnoringCase · "true") =
      t.synchronous := by
    have hstored : t.toRecord.get? "synchronous" =
        some (if t.synchronous then "true" else "false") := by
      simp [Task.toRecord, Dict.ofList, Dict.insertAll]
    rw [Record.filled?, hstored]
    cases t.synchronous <;> decide
  have hschema : t.toRecord.filled? "schema" = t.schema.map Json.compact := by
    have hstored : t.toRecord.get? "schema" = some ((t.schema.map Json.compact).getD "") := by
      simp [Task.toRecord, Dict.ofList, Dict.insertAll]
    rw [Record.filled?, hstored]
    cases t.schema with
    | none => rfl
    | some schema => simp [Json.compact_ne_empty schema]
  simp only [Task.ofRecord, hschema, Task.field_runner_toRecord, hcommand, hsynchronous, Task.reread?]
  cases t.schema with
  | none => rfl
  | some schema =>
    simp only [Option.map_some]
    cases Json.read? schema.compact <;> rfl

/-- A schema that is read back as itself stays. -/
theorem Task.reread?_eq {t : Task} (hback : ∀ schema, t.schema = some schema → schema.ReadsBack)
    {again : Option Json} (h : t.reread? = some again) : again = t.schema := by
  rw [Task.reread?] at h
  cases hschema : t.schema with
  | none =>
    rw [hschema] at h
    exact (Option.some.inj h).symm
  | some schema =>
    rw [hschema] at h
    obtain ⟨value, hread, rfl⟩ := Option.map_eq_some_iff.mp h
    rw [hback schema hschema value hread]

/-- What is read back of a task whose schema is read back as itself. -/
theorem Task.ofRecord_toRecord_eq_ok {t u : Task}
    (hback : ∀ schema, t.schema = some schema → schema.ReadsBack)
    (h : Task.ofRecord t.name t.toRecord = .ok u) : u = { t with secret := none } := by
  rw [Task.ofRecord_toRecord] at h
  split at h
  · rename_i again hagain
    rw [Task.reread?_eq hback hagain] at h
    exact (Except.ok.inj h).symm
  · cases h

/-- The record of a task holds of its schema the text, and nothing of its secret values. -/
theorem Task.toRecord_congr {t u : Task} (hname : u.name = t.name) (hrunner : u.runner = t.runner)
    (hcommand : u.command = t.command) (hsynchronous : u.synchronous = t.synchronous)
    (hschema : u.schema.map Json.compact = t.schema.map Json.compact) : u.toRecord = t.toRecord := by
  rw [Task.toRecord, Task.toRecord, hname, hrunner, hcommand, hsynchronous, hschema]

/-! ## Records of definitions -/

/-- Whether a record is that of a valid definition of its name. -/
inductive Record.Defines : String → Record → Prop
  | runner {r : Runner} (valid : r.validate = .ok ()) : Defines r.name r.toRecord
  | task {t : Task} (valid : t.validate = .ok ()) : Defines t.name t.toRecord

/-- The record of a task that is defined. -/
theorem Record.Defines.exists_task {name : String} {record : Record} (h : Defines name record)
    (htask : Task.isRecord record = true) :
    ∃ t : Task, t.name = name ∧ t.validate = .ok () ∧ record = t.toRecord := by
  cases h with
  | runner valid =>
    rw [Task.isRecord_toRecord_runner] at htask
    cases htask
  | task valid => exact ⟨_, rfl, valid, rfl⟩

/-- The record of a runner that is defined. -/
theorem Record.Defines.exists_runner {name : String} {record : Record} (h : Defines name record)
    (hrunner : Runner.isRecord record = true) :
    ∃ r : Runner, r.name = name ∧ r.validate = .ok () ∧ record = r.toRecord := by
  cases h with
  | runner valid => exact ⟨_, rfl, valid, rfl⟩
  | task valid =>
    rw [Runner.isRecord_toRecord_task] at hrunner
    cases hrunner

namespace Stores

/-- Whether every record is that of a valid definition of its name. -/
def Defined (s : Stores) : Prop :=
  ∀ name record, s.catalog.records.get? name = some record → record.Defines name

theorem defined_empty : (World.stores {}).Defined := by simp [Defined, World.stores]

variable {s t : Stores}

/-- A definition may be written under its name. -/
theorem Defined.written (h : s.Defined) {name : String} {record : Record}
    (hrecord : record.Defines name) (secrets : RecordStore) :
    Defined { s with catalog := s.catalog.written name record, secrets } :=
  Dict.forall_insert hrecord h

/-- A change writes a valid definition, if it writes a record. -/
theorem Defined.change {target : Target} (h : s.Defined) (hchange : s.Change target t) :
    t.Defined := by
  cases hchange with
  | runner valid => exact h.written (.runner valid) _
  | task valid => exact h.written (.task valid) _
  | schema schema stored isTask read =>
    rename_i name record u
    obtain ⟨old, rfl, hvalid, rfl⟩ := (h name record stored).exists_task isTask
    rw [Task.ofRecord_toRecord] at read
    split at read
    · cases read
      exact h.written (.task (t := { old with schema, secret := none }) hvalid) s.secrets
    · cases read
  | removal unused => exact fun other stored hstored => h other stored (Dict.get?_of_erase hstored)
  | _ => exact h

/-- Whatever happens, records are those of valid definitions. -/
theorem Defined.step (hstep : s.Step t) (h : s.Defined) : t.Defined := by
  cases hstep with
  | polled hpolled =>
    rw [Defined, hpolled.catalog]
    exact h
  | changed target hchange => exact h.change hchange
  | launched made task owner jobSuffix podSuffix hlaunched hpolled =>
    rw [Defined, hpolled.catalog, hlaunched.catalog]
    exact h

end Stores

namespace World

variable {w : World}

/-- What loads under the name of a task that is stored. -/
theorem taskNamed_of_stored {t : Task} (hstored : w.catalog.records.get? t.name = some t.toRecord)
    (hvalid : t.validate = .ok ()) : w.taskNamed t.name = Task.ofRecord t.name t.toRecord := by
  rw [taskNamed, hstored]
  exact if_pos (Task.isRecord_toRecord hvalid)

/-- What loads under the name of a runner that is stored. -/
theorem runnerNamed_of_stored {r : Runner}
    (hstored : w.catalog.records.get? r.name = some r.toRecord) (hvalid : r.validate = .ok ()) :
    w.runnerNamed r.name = .ok { r with branch := r.effectiveBranch, token := none } := by
  rw [runnerNamed, hstored, ← Runner.ofRecord_toRecord]
  exact if_pos (Runner.isRecord_toRecord hvalid)

/-- A runner that is held loads. -/
theorem runnerNamed_of_holds {name : String} (h : w.stores.HoldsRunner name) :
    ∃ r, w.runnerNamed name = .ok r := by
  obtain ⟨record, hget, hrecord⟩ := h
  have hget : w.catalog.records.get? name = some record := hget
  exact ⟨Runner.ofRecord name record, by rw [runnerNamed, hget]; exact if_pos hrecord⟩

/-- All along a session, a task record is that of a valid task without secret values whose schema was
introduced in the session. -/
theorem exists_task_after (config : EngineConfig) (events : List SessionEvent) {name : String}
    {record : Record} (hget : (World.after config {} events).catalog.records.get? name = some record)
    (htask : Task.isRecord record = true) :
    ∃ t : Task, t.name = name ∧ t.secret = none ∧ t.validate = .ok () ∧ record = t.toRecord ∧
      ∀ schema, t.schema = some schema → SessionEvent.Introduced events schema := by
  have hdefined := stores_after Stores.defined_empty Stores.Defined.step config events name record hget
  obtain ⟨t, rfl, hvalid, rfl⟩ := hdefined.exists_task htask
  have hcarries := (carry_after config events).record t.name t.toRecord hget
  cases hschema : t.schema with
  | none =>
    refine ⟨{ t with secret := none }, rfl, rfl, hvalid, Task.toRecord_congr rfl rfl rfl rfl rfl, ?_⟩
    intro schema hsome
    rw [hschema] at hsome
    cases hsome
  | some schema =>
    -- The stored text is that of a schema that was introduced; it need not be this one.
    have hfilled : t.toRecord.filled? "schema" = some schema.compact := by
      rw [Record.filled?_eq_some_iff]
      exact ⟨by simp [Task.toRecord, Dict.ofList, Dict.insertAll, hschema],
        schema.compact_ne_empty⟩
    obtain ⟨introduced, htext, hintroduced⟩ := hcarries schema.compact hfilled
    refine ⟨{ t with schema := some introduced, secret := none }, rfl, rfl, hvalid,
      Task.toRecord_congr rfl rfl rfl rfl ?_, fun other hother => ?_⟩
    · rw [hschema, Option.map_some, Option.map_some, htext]
    · cases hother
      exact hintroduced

/-- All along a session, a runner record is that of a valid runner. -/
theorem exists_runner_after (config : EngineConfig) (events : List SessionEvent) {name : String}
    {record : Record} (hget : (World.after config {} events).catalog.records.get? name = some record)
    (hrunner : Runner.isRecord record = true) :
    ∃ r : Runner, r.name = name ∧ r.validate = .ok () ∧ record = r.toRecord :=
  (stores_after Stores.defined_empty Stores.Defined.step config events name record hget).exists_runner
    hrunner

end World

end TaskEngine
