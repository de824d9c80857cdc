import TaskEngine.Proofs.Engine.Loads

/-!
# What writing leaves behind

Over stores that hold, a write of a runner or a task either fails before anything is written, or
writes its record and then merges its secret; what is shown afterwards is read back from there.
-/

namespace TaskEngine

open Engine

/-! ## Merging secrets -/

/-- What an update did to a secret, told from what was stored before and after it. -/
def Secret.UpdateOutcome.ofChange (before after : Option Record) : Secret.UpdateOutcome :=
  match before, after with
  | none, none => .unchanged
  | none, some _ => .created
  | some _, none => .deleted
  | some old, some new => if old = new then .unchanged else .updated

/-- A secret after an update, absent if no key is left and there was none before. -/
def RecordStore.mergedSecret (s : RecordStore) (name : String) (desired : Record) : Record :=
  Secret.merge ((s.records.get? name).getD ∅) desired

/-- The store after an update of a secret. A write that would change nothing is not made. -/
def RecordStore.mergeSecret (s : RecordStore) (name : String) (desired : Record) : RecordStore :=
  let merged := s.mergedSecret name desired
  match s.records.get? name with
  | some stored =>
    if stored = merged then s
    else if merged.isEmpty then { records := s.records.erase name, writes := s.writes + 1 }
    else s.written name merged
  | none => if merged.isEmpty then s else s.written name merged

/-- The store after the removal of a secret. -/
def RecordStore.removeSecret (s : RecordStore) (name : String) : RecordStore :=
  if s.records.contains name then { records := s.records.erase name, writes := s.writes + 1 } else s

/-- The records after an update of a secret: it is stored, or gone if no key is left. A secret that
has had no keys before stays. -/
theorem RecordStore.records_mergeSecret (s : RecordStore) (name : String) (desired : Record) :
    (s.mergeSecret name desired).records =
      if (s.mergedSecret name desired).isEmpty then
        if s.records.get? name = some ∅ then s.records else s.records.erase name
      else s.records.insert name (s.mergedSecret name desired) := by
  simp only [mergeSecret]
  rcases Option.eq_none_or_eq_some (s.records.get? name) with hstored | ⟨stored, hstored⟩
  · simp only [hstored]
    split
    · rw [if_neg (by simp), Dict.erase_eq_self hstored]
    · rfl
  · simp only [hstored, Option.some.injEq]
    by_cases hsame : stored = s.mergedSecret name desired
    · rw [if_pos hsame]
      split
      · rename_i hempty
        rw [if_pos (hsame.trans (Dict.isEmpty_iff.mp hempty))]
      · rw [Dict.insert_eq_self (hsame ▸ hstored)]
    · rw [if_neg hsame]
      split
      · rename_i hempty
        rw [if_neg fun h => hsame (h.trans (Dict.isEmpty_iff.mp hempty).symm)]
      · rfl

/-- An update of a secret leaves the others. -/
theorem RecordStore.get?_mergeSecret_of_ne {s : RecordStore} {name other : String}
    (h : other ≠ name) (desired : Record) :
    (s.mergeSecret name desired).records.get? other = s.records.get? other := by
  simp only [mergeSecret]
  split
  · split
    · rfl
    · split <;> simp [written, h.symm]
  · split
    · rfl
    · simp [written, h.symm]

/-- A removal of a secret leaves the others. -/
theorem RecordStore.get?_removeSecret_of_ne {s : RecordStore} {name other : String}
    (h : other ≠ name) : (s.removeSecret name).records.get? other = s.records.get? other := by
  rw [removeSecret]
  split
  · simp [h.symm]
  · rfl

namespace World

variable {w : World}

theorem run_secrets_delete (h : w.StoresHold) (name : String) :
    w.run (Procedure.secrets (.delete name)) =
      (.ok (), { w with secrets := w.secrets.removeSecret name }) := by
  rw [run_secrets, guarded, if_neg (by simpa using h.secrets (.delete name))]
  simp only [RecordStore.answerSecrets, RecordStore.removeSecret]
  split <;> rfl

/-- Merging an update into a secret always succeeds, and the outcome tells what it did. -/
theorem run_applySecret_eq (h : w.StoresHold) (name : String) (desired : Record) :
    w.run (applySecret name desired) =
      (.ok (.ofChange (w.secrets.records.get? name)
          ((w.secrets.mergeSecret name desired).records.get? name)),
        { w with secrets := w.secrets.mergeSecret name desired }) := by
  rw [applySecret, run_bind_of_ok (run_secrets_get h name)]
  simp only [RecordStore.mergeSecret, RecordStore.mergedSecret]
  rcases Option.eq_none_or_eq_some (w.secrets.records.get? name) with hstored | ⟨stored, hstored⟩
  · simp only [hstored, Option.getD_none]
    have hfree : w.secrets.records.contains name = false := Dict.contains_eq_false_iff.mpr hstored
    split
    · simp only [hstored]
      rfl
    · simp only [run_bind, run_secrets_put h, hfree, hstored, Option.getD_none, WriteMode.demand,
        RecordStore.written, Dict.get?_insert, if_true]
      rfl
  · simp only [hstored, Option.getD_some]
    have htaken : w.secrets.records.contains name = true := Dict.contains_iff.mpr ⟨stored, hstored⟩
    split
    · simp only [hstored, Secret.UpdateOutcome.ofChange, if_true]
      rfl
    · rename_i hchanged
      split
      · simp only [run_bind, run_secrets_delete h, RecordStore.removeSecret, htaken, if_true,
          Dict.get?_erase]
        rfl
      · simp only [run_bind, run_secrets_put h, htaken, hstored, Option.getD_some, WriteMode.demand,
          RecordStore.written, Dict.get?_insert, if_true, Secret.UpdateOutcome.ofChange,
          if_neg hchanged]
        rfl

/-- Where only the store that it leaves counts, the outcome need not be known. -/
theorem run_applySecret (h : w.StoresHold) (name : String) (desired : Record) :
    ∃ outcome, w.run (applySecret name desired) =
      (.ok outcome, { w with secrets := w.secrets.mergeSecret name desired }) :=
  ⟨_, run_applySecret_eq h name desired⟩

end World

/-! ## Valid definitions -/

/-- A name is demanded exactly when it is legal. -/
theorem Name.demand_eq_ok {text : String} {u : Unit} :
    Name.demand text = .ok u ↔ Name.isLegal text = true := by
  rw [Name.demand]
  split <;> simp_all

/-- A valid runner has a legal name and no findings. -/
theorem Runner.validate_eq_ok {r : Runner} :
    r.validate = .ok () ↔ Name.isLegal r.name = true ∧ r.findings = [] := by
  rw [Runner.validate, Outcome.bind_eq_ok]
  cases r.findings <;> simp [Name.demand_eq_ok, exists_const]

/-- A valid task has a legal name and no findings. -/
theorem Task.validate_eq_ok {t : Task} :
    t.validate = .ok () ↔ Name.isLegal t.name = true ∧ t.findings = [] := by
  rw [Task.validate, Outcome.bind_eq_ok]
  cases t.findings <;> simp [Name.demand_eq_ok, exists_const]

/-- The record of a valid runner describes a runner. -/
theorem Runner.isRecord_toRecord {r : Runner} (h : r.validate = .ok ()) :
    Runner.isRecord r.toRecord = true := by
  have himage : Text.isBlank r.image = false := by
    have hfindings := (Runner.validate_eq_ok.mp h).2
    simp only [Runner.findings, List.append_eq_nil_iff] at hfindings
    by_contra hblank
    simp [hblank] at hfindings
  rw [Runner.isRecord_iff, Runner.field_image_toRecord]
  exact Text.ne_empty_of_isBlank_eq_false himage

/-- The record of a valid task describes a task. -/
theorem Task.isRecord_toRecord {t : Task} (h : t.validate = .ok ()) :
    Task.isRecord t.toRecord = true := by
  have hrunner : Text.isBlank t.runner = false := by
    have hfindings := (Task.validate_eq_ok.mp h).2
    simp only [Task.findings, List.append_eq_nil_iff] at hfindings
    by_contra hblank
    simp [hblank] at hfindings
  rw [Task.isRecord_iff, Task.field_runner_toRecord]
  exact Text.ne_empty_of_isBlank_eq_false hrunner

namespace World

variable {w : World}

/-! ## Writing runners -/

/-- The world after a runner is written. -/
def withRunner (w : World) (r : Runner) : World :=
  { w with
    catalog := w.catalog.written r.name r.toRecord
    secrets := match r.token with
      | some token => w.secrets.mergeSecret r.name (Dict.ofList [(Runner.tokenKey, token)])
      | none => w.secrets }

/-- Whether a runner may be written in a mode, or why not. -/
def admitRunner (w : World) (r : Runner) (mode : WriteMode) : Outcome Unit := do
  r.validate
  mode.demand CatalogCall.resource r.name (w.catalog.records.contains r.name)

/-- What is read back of a valid runner that was just written. -/
theorem runnerNamed_withRunner {r : Runner} (hvalid : r.validate = .ok ()) :
    (w.withRunner r).runnerNamed r.name = .ok (Runner.ofRecord r.name r.toRecord) := by
  simp [runnerNamed, withRunner, RecordStore.written, Runner.isRecord_toRecord hvalid]

/-- Writing a runner fails before anything is written, or succeeds. -/
theorem run_writeRunner (h : w.StoresHold) (r : Runner) (mode : WriteMode) :
    w.run (writeRunner r mode) = match w.admitRunner r mode with
      | .ok () => (.ok ((w.withRunner r).shownRunner (Runner.ofRecord r.name r.toRecord)),
          w.withRunner r)
      | .error e => (.error e, w) := by
  rw [writeRunner, run_bind, run_lift, admitRunner]
  cases hvalid : r.validate with
  | error e => rfl
  | ok u =>
    simp only [run_bind, run_catalog_put h, Outcome.ok_bind]
    cases mode.demand CatalogCall.resource r.name (w.catalog.records.contains r.name) with
    | error e => rfl
    | ok u =>
      have hread := runnerNamed_withRunner (w := w) hvalid
      have hwritten : { w with catalog := w.catalog.written r.name r.toRecord }.StoresHold :=
        ⟨h.catalog, h.secrets⟩
      have hafter : (w.withRunner r).StoresHold := ⟨h.catalog, h.secrets⟩
      have hget := run_getRunner hafter r.name
      rw [hread] at hget
      cases htoken : r.token with
      | none => simpa [withRunner, htoken] using hget
      | some token =>
        obtain ⟨outcome, hmerge⟩ := run_applySecret hwritten r.name
          (Dict.ofList [(Runner.tokenKey, token)])
        simp only [run_bind, hmerge]
        simpa [withRunner, htoken] using hget

/-! ## Writing tasks -/

/-- Whether the schema of a task is one, or why not. -/
def checkedSchema (t : Task) : Outcome Unit :=
  match t.schema with
  | some schema => Schema.check schema
  | none => .ok ()

/-- Merge the secret values of a task. An update without them removes the stored ones. -/
def storeSecret (t : Task) (mode : WriteMode) : Procedure Unit :=
  match t.secret, mode with
  | some desired, _ => do
    let _ ← applySecret t.name desired
  | none, .update => Procedure.secrets (.delete t.name)
  | none, .create => pure ()

/-- A task is written in six steps, of which the fourth and the fifth change something. -/
theorem writeTask_eq (t : Task) (mode : WriteMode) :
    writeTask t mode = (do
      Dialogue.lift t.validate
      Dialogue.lift (checkedSchema t)
      let _ ← loadRunner t.runner
      let _ ← Procedure.catalog (.put t.name t.toRecord mode)
      storeSecret t mode
      getTask t.name) := by
  rw [writeTask]
  refine congrArg _ (funext fun _ => ?_)
  obtain ⟨name, runner, command, synchronous, schema, secret⟩ := t
  cases schema <;> cases secret <;> cases mode <;>
    simp only [checkedSchema, storeSecret, Dialogue.bind_assoc] <;> rfl

/-- The world after a task is written. -/
def withTask (w : World) (t : Task) (mode : WriteMode) : World :=
  { w with
    catalog := w.catalog.written t.name t.toRecord
    secrets := match t.secret, mode with
      | some desired, _ => w.secrets.mergeSecret t.name desired
      | none, .update => w.secrets.removeSecret t.name
      | none, .create => w.secrets }

theorem run_storeSecret (h : w.StoresHold) (t : Task) (mode : WriteMode) :
    w.run (storeSecret t mode) =
      (.ok (), { w with secrets := (w.withTask t mode).secrets }) := by
  unfold storeSecret withTask
  cases t.secret with
  | some desired =>
    obtain ⟨outcome, hmerge⟩ := run_applySecret h t.name desired
    simp only [run_bind, hmerge]
    rfl
  | none =>
    cases mode with
    | create => rfl
    | update => exact run_secrets_delete h t.name

/-- Whether a task may be written in a mode, or why not. -/
def admitTask (w : World) (t : Task) (mode : WriteMode) : Outcome Unit := do
  t.validate
  checkedSchema t
  let _ ← w.runnerNamed t.runner
  mode.demand CatalogCall.resource t.name (w.catalog.records.contains t.name)

/-- What is read back of a valid task that was just written. -/
theorem taskNamed_withTask {t : Task} (hvalid : t.validate = .ok ()) (mode : WriteMode) :
    (w.withTask t mode).taskNamed t.name = Task.ofRecord t.name t.toRecord := by
  simp [taskNamed, withTask, RecordStore.written, Task.isRecord_toRecord hvalid]

/-- Writing a task fails before anything is written, or ends in reading it back. -/
theorem run_writeTask (h : w.StoresHold) (t : Task) (mode : WriteMode) :
    w.run (writeTask t mode) = match w.admitTask t mode with
      | .ok () => ((Task.ofRecord t.name t.toRecord).map (w.withTask t mode).shownTask,
          w.withTask t mode)
      | .error e => (.error e, w) := by
  rw [writeTask_eq, run_bind, run_lift, admitTask]
  cases hvalid : t.validate with
  | error e => rfl
  | ok u =>
    simp only [run_bind, run_lift, Outcome.ok_bind]
    cases checkedSchema t with
    | error e => rfl
    | ok u =>
      simp only [run_loadRunner h, Outcome.ok_bind]
      cases w.runnerNamed t.runner with
      | error e => rfl
      | ok r =>
        simp only [run_catalog_put h, Outcome.ok_bind]
        cases mode.demand CatalogCall.resource t.name (w.catalog.records.contains t.name) with
        | error e => rfl
        | ok u =>
          have hwritten : { w with catalog := w.catalog.written t.name t.toRecord }.StoresHold :=
            ⟨h.catalog, h.secrets⟩
          have hafter : (w.withTask t mode).StoresHold := ⟨h.catalog, h.secrets⟩
          have hget := run_getTask hafter t.name
          rw [taskNamed_withTask hvalid] at hget
          simp only [run_storeSecret hwritten]
          exact hget

/-! ## Writing schemas -/

/-- What may be replaced is what is there. -/
theorem demand_update_eq_ok {resource name : String} {record : Record}
    (hget : w.catalog.records.get? name = some record) :
    WriteMode.update.demand resource name (w.catalog.records.contains name) = .ok () := by
  rw [Dict.contains_iff.mpr ⟨record, hget⟩]
  rfl

/-- Up to its audit entry, a schema is refused with nothing changed, or written into a task that
loads. -/
theorem run_updateSchema (h : w.StoresHold) (principal : Principal) (name : String)
    (schema : Json) :
    ∃ audit, w.run (updateSchema principal name schema) =
      match Schema.check schema >>= fun _ => w.taskNamed name with
      | .ok t => (.ok schema, { w with
          catalog := w.catalog.written name { t with schema := some schema }.toRecord, audit })
      | .error e => (.error e, { w with audit }) := by
  rw [updateSchema, run_audited, run_bind, run_lift]
  cases Schema.check schema with
  | error e => exact ⟨_, rfl⟩
  | ok u =>
    simp only [run_bind, run_loadTask h, Outcome.ok_bind]
    cases hload : w.taskNamed name with
    | error e => exact ⟨_, rfl⟩
    | ok t =>
      obtain ⟨record, hget, -, -⟩ := taskNamed_eq_ok hload
      simp only [run_catalog_put h, demand_update_eq_ok hget]
      exact ⟨_, rfl⟩

end World

end TaskEngine
