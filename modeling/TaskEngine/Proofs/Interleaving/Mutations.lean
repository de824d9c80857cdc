import TaskEngine.Proofs.Integrity
import TaskEngine.Proofs.Interleaving.Footprints

/-!
# Mutations of the catalog

Runners and tasks are created, replaced and removed, and schemas edited, under one name each. Such a
mutation wants the name to stand for something, and lets it stand for something when it is done.
Where the name stands for anything else it comes to nothing. Besides its own name, a task looks at
its runner, and the removal of a runner looks for tasks that refer to it.
-/

namespace TaskEngine

open Engine

/-! ## What names stand for -/

/-- What a name stands for in the catalog. -/
inductive Standing where
  /-- Nothing has the name. -/
  | free
  | runner
  | task
  deriving DecidableEq

namespace Standing

/-- Whether this is what the name of a record stands for. -/
def Holds : Standing → Option Record → Prop
  | .free, none => True
  | .runner, some record => Runner.isRecord record = true ∧ Task.isRecord record = false
  | .task, some record => Runner.isRecord record = false ∧ Task.isRecord record = true
  | _, _ => False

/-- Whether the name of a record stands for something else. -/
def Other (s : Standing) (record : Option Record) : Prop := ∃ t, t ≠ s ∧ t.Holds record

variable {s t : Standing} {record : Option Record}

/-- Whatever is written under a free name, it was free. -/
theorem holds_free : Standing.free.Holds record ↔ record = none := by
  cases record <;> simp [Holds]

/-- A name is taken if it is not free. -/
theorem isSome_of_other (h : Standing.free.Other record) : record.isSome = true := by
  obtain ⟨t, hne, ht⟩ := h
  cases record with
  | none => cases t <;> first | exact (hne rfl).elim | exact ht.elim
  | some record => rfl

/-- A record that is not a runner's is none. -/
theorem any_isRunner_of_other (h : Standing.runner.Other record) :
    record.any Runner.isRecord = false := by
  obtain ⟨t, hne, ht⟩ := h
  cases record with
  | none => rfl
  | some record => cases t <;> first | exact (hne rfl).elim | exact ht.1 | exact ht.elim

/-- A record is a runner's exactly if its name stands for a runner. -/
theorem any_isRunner_of_holds (h : s.Holds record) :
    record.any Runner.isRecord = decide (s = .runner) := by
  cases record with
  | none => cases s <;> first | rfl | exact h.elim
  | some record => cases s <;> first | exact h.1 | exact h.elim

/-- A record that is not a task's is none. -/
theorem any_isTask_of_other (h : Standing.task.Other record) :
    record.any Task.isRecord = false := by
  obtain ⟨t, hne, ht⟩ := h
  cases record with
  | none => rfl
  | some record => cases t <;> first | exact (hne rfl).elim | exact ht.2 | exact ht.elim

/-- The record of a valid runner makes its name stand for a runner. -/
theorem holds_runner {r : Runner} (h : r.validate = .ok ()) :
    Standing.runner.Holds (some r.toRecord) :=
  ⟨Runner.isRecord_toRecord h, Task.isRecord_toRecord_runner r⟩

/-- The record of a task with a runner makes its name stand for a task. -/
theorem holds_task {t : Task} (h : t.runner ≠ "") : Standing.task.Holds (some t.toRecord) :=
  ⟨Runner.isRecord_toRecord_task t, Task.isRecord_iff.mpr (by simpa using h)⟩

end Standing

/-- Whether a record is that of a task that refers to a runner. -/
def refersTo (runner : String) (record : Option Record) : Bool :=
  record.any fun record => Task.isRecord record && record.field "runner" = runner

/-- Nothing but a task refers to a runner. -/
theorem refersTo_of_other {runner : String} {record : Option Record}
    (h : Standing.task.Other record) : refersTo runner record = false := by
  have hany := Standing.any_isTask_of_other h
  cases record with
  | none => rfl
  | some record =>
    rw [Option.any_some] at hany
    simp [refersTo, hany]

/-- A mutation of the definition under a name. -/
structure Mutation where
  name : String
  /-- What the name has to stand for. -/
  before : Standing
  /-- What it stands for then. -/
  after : Standing
  /-- The runner that a task is written with. -/
  runner : Option String := none

namespace Mutation

/-- The record that a mutation leaves, if it comes to something. -/
structure Leaves (m : Mutation) (record : Option Record) : Prop where
  standing : m.after.Holds record
  /-- A task is left with the runner it is written with. -/
  runner : ∀ runner ∈ m.runner, refersTo runner record = true

/-- What a mutation sees of the records of the catalog: a task whether its runner is one, and the
removal of a runner which tasks refer to it. -/
def sees (m : Mutation) (name : String) (record : Option Record) : Bool :=
  match m.runner with
  | some runner => name = runner && record.any Runner.isRecord
  | none => m.before = .runner && m.after = .free && refersTo m.name record

/-- A mutation that sees anything writes a task or removes a runner. -/
theorem sees_cases (m : Mutation) :
    (∃ runner, m.runner = some runner ∧ ∀ name record,
      m.sees name record = (decide (name = runner) && record.any Runner.isRecord)) ∨
      (m.before = .runner ∧ m.after = .free ∧ ∀ name, m.sees name = refersTo m.name) ∨
      ∀ name record, m.sees name record = false := by
  cases hrunner : m.runner with
  | some runner => exact .inl ⟨runner, rfl, fun name record => by simp [sees, hrunner]⟩
  | none =>
    by_cases hremoval : m.before = .runner ∧ m.after = .free
    · exact .inr (.inl ⟨hremoval.1, hremoval.2, fun name => funext fun record => by
        simp [sees, hrunner, hremoval]⟩)
    · refine .inr (.inr fun name record => ?_)
      simp only [sees, hrunner, Bool.and_eq_false_imp, Bool.and_eq_true, decide_eq_true_eq]
      exact fun hboth => (hremoval hboth).elim

end Mutation

/-- The mutation of the catalog that a call asks for. -/
def ServiceCall.mutation? : ServiceCall → Option Mutation
  | .createRunner _ r => some { name := r.name, before := .free, after := .runner }
  | .updateRunner _ r => some { name := r.name, before := .runner, after := .runner }
  | .deleteRunner _ name => some { name, before := .runner, after := .free }
  | .createTask _ t =>
    some { name := t.name, before := .free, after := .task, runner := some t.runner }
  | .updateTask _ t =>
    some { name := t.name, before := .task, after := .task, runner := some t.runner }
  | .deleteTask _ name => some { name, before := .task, after := .free }
  | .updateSchema _ name _ | .deleteSchema _ name => some { name, before := .task, after := .task }
  | _ => none

/-- What a valid task is written with. -/
theorem Mutation.leaves_toRecord {m : Mutation} {t : Task} (hafter : m.after = .task)
    (hrunner : ∀ runner ∈ m.runner, runner = t.runner) (ht : t.runner ≠ "") :
    m.Leaves (some t.toRecord) := by
  have hholds := Standing.holds_task ht
  refine ⟨hafter ▸ hholds, fun runner hmem => ?_⟩
  rw [hrunner runner hmem, refersTo, Option.any_some, hholds.2, Task.field_runner_toRecord]
  simp

/-- A valid task has a runner. -/
theorem Task.runner_ne_of_validate {t : Task} (h : t.validate = .ok ()) : t.runner ≠ "" := by
  simpa using Task.isRecord_iff.mp (Task.isRecord_toRecord h)

/-- The task that is loaded from what stands under its name. -/
def Task.loaded (name : String) : Option Record → Outcome Task
  | some record =>
    if Task.isRecord record then Task.ofRecord name record
    else .error (.notFound taskResource name)
  | none => .error (.notFound taskResource name)

/-- A task is loaded from a task record of its name. -/
theorem Task.loaded_eq_ok {name : String} {record : Option Record} {t : Task}
    (h : Task.loaded name record = .ok t) :
    ∃ stored, record = some stored ∧ Task.isRecord stored = true ∧
      Task.ofRecord name stored = .ok t := by
  cases record with
  | none => cases h
  | some stored =>
    rw [Task.loaded] at h
    split at h
    · rename_i htask
      exact ⟨stored, rfl, htask, h⟩
    · cases h

/-- A task that is loaded has a runner. -/
theorem Task.runner_ne_of_loaded {name : String} {record : Option Record} {t : Task}
    (h : Task.loaded name record = .ok t) : t.runner ≠ "" := by
  obtain ⟨stored, -, htask, hread⟩ := Task.loaded_eq_ok h
  rw [(Task.ofRecord_fields hread).2.1]
  exact Task.isRecord_iff.mp htask

theorem loadTask_eq (name : String) :
    loadTask name =
      Procedure.catalog (.get name) >>= fun record => Dialogue.lift (Task.loaded name record) := by
  refine congrArg _ (funext fun record => ?_)
  cases record with
  | none => rfl
  | some record =>
    cases htask : Task.isRecord record <;> simp only [Task.loaded, htask] <;> rfl

/-! ## Procedures about one name -/

/-- A procedure is about one name and writes no record. -/
abbrev Procedure.Minor {α : Type} (name : String) (p : Procedure α) : Prop :=
  Dialogue.OnlyAsks (Request.Own name fun _ => False) p

/-- What may be left may be more. -/
theorem Request.Own.mono {name : String} {leaves leaves' : Option Record → Prop} {r : Request}
    (h : r.Own name leaves) (himp : ∀ record, leaves record → leaves' record) :
    r.Own name leaves' := by
  cases r with
  | catalog call =>
    cases call with
    | put n written mode => exact ⟨h.1, himp _ h.2⟩
    | delete n => exact ⟨h.1, himp _ h.2⟩
    | _ => exact h
  | secrets call => cases call <;> exact h
  | workloads call => cases call <;> exact h
  | _ => exact h

namespace Procedure.Minor

variable {α : Type} {name : String} {p : Procedure α}

theorem own (h : Minor name p) (leaves : Option Record → Prop) :
    p.OnlyAsks (Request.Own name leaves) :=
  h.mono fun _ hr => hr.mono fun _ hfalse => hfalse.elim

theorem not_commits (h : Minor name p) : p.OnlyAsks fun r => ¬ r.Commits := by
  refine h.mono fun r hr => ?_
  cases r with
  | catalog call => cases call <;> first | exact id | exact fun _ => hr.2
  | _ => exact id

end Procedure.Minor

namespace Engine

variable {name : String}

theorem minor_catalog_get : (Procedure.catalog (.get name)).Minor name :=
  ⟨rfl, fun _ => trivial⟩

theorem minor_secrets_get : (Procedure.secrets (.get name)).Minor name :=
  ⟨rfl, fun _ => trivial⟩

theorem minor_secrets_put (secret : Record) (mode : WriteMode) :
    (Procedure.secrets (.put name secret mode)).Minor name :=
  ⟨rfl, fun _ => trivial⟩

theorem minor_secrets_delete : (Procedure.secrets (.delete name)).Minor name :=
  ⟨rfl, fun _ => trivial⟩

theorem minor_loadRunner : (loadRunner name).Minor name := by
  refine minor_catalog_get.bind fun record => ?_
  split
  · split <;> trivial
  · trivial

theorem minor_loadTask : (loadTask name).Minor name := by
  refine minor_catalog_get.bind fun record => ?_
  split
  · split <;> trivial
  · trivial

theorem minor_applySecret (desired : Record) : (applySecret name desired).Minor name := by
  refine minor_secrets_get.bind fun current => ?_
  cases current with
  | none =>
    dsimp only
    split
    · trivial
    · exact (minor_secrets_put _ _).bind fun _ => trivial
  | some stored =>
    dsimp only
    split
    · trivial
    · split
      · exact minor_secrets_delete.bind fun _ => trivial
      · exact (minor_secrets_put _ _).bind fun _ => trivial

theorem minor_getRunner : (getRunner name).Minor name := by
  refine minor_loadRunner.bind fun runner => minor_secrets_get.bind fun secret => ?_
  split <;> trivial

theorem minor_redactedSecret : (redactedSecret name).Minor name :=
  minor_secrets_get.bind fun _ => trivial

theorem minor_getTask : (getTask name).Minor name :=
  minor_loadTask.bind fun _ => minor_redactedSecret.bind fun _ => trivial

theorem minor_storeSecret (t : Task) (mode : WriteMode) :
    (World.storeSecret t mode).Minor t.name := by
  unfold World.storeSecret
  cases t.secret with
  | some desired => exact (minor_applySecret desired).bind fun _ => trivial
  | none =>
    cases mode with
    | create => trivial
    | update => exact minor_secrets_delete

theorem minor_listCronJobs (selector : String) :
    (Procedure.workloads (.listCronJobs selector)).Minor name :=
  ⟨trivial, fun _ => trivial⟩

theorem minor_listDeployments (selector : String) :
    (Procedure.workloads (.listDeployments selector)).Minor name :=
  ⟨trivial, fun _ => trivial⟩

end Engine

namespace World

variable {w : World} {name : String} {leaves : Option Record → Prop}
  {sight : String → Option Record → Bool} {α β : Type}

/-! ## Footprints of mutations -/

/-- A procedure is about one name but for one look, and writes one record at most. -/
structure Footprint (w : World) (name : String) (leaves : Option Record → Prop)
    (sight : String → Option Record → Bool) (p : Procedure α) : Prop where
  looks : w.LooksOnce name leaves sight p
  commits : CommitsOnce p

theorem Footprint.of_minor {p : Procedure α} (h : p.Minor name) : w.Footprint name leaves sight p :=
  ⟨(h.own leaves).once, h.not_commits.once⟩

/-- What goes before is only about the name. -/
theorem Footprint.minor_bind {p : Procedure α} {next : α → Procedure β} (hp : p.Minor name)
    (hnext : ∀ a, w.Footprint name leaves sight (next a)) :
    w.Footprint name leaves sight (p >>= next) :=
  ⟨(hp.own leaves).bind_once fun a => (hnext a).looks,
    hp.not_commits.bind_once fun a => (hnext a).commits⟩

/-- What follows is only about the name. -/
theorem Footprint.bind {p : Procedure α} {next : α → Procedure β}
    (hp : w.Footprint name leaves sight p) (hnext : ∀ a, (next a).Minor name) :
    w.Footprint name leaves sight (p >>= next) :=
  ⟨hp.looks.bind fun a => (hnext a).own leaves, hp.commits.bind fun a => (hnext a).not_commits⟩

theorem Footprint.audited {p : Procedure α} (hp : w.Footprint name leaves sight p)
    (principal : Principal) (action : AuditAction) (category : ResourceKind) (target : String) :
    w.Footprint name leaves sight (Procedure.audited principal action category target p) :=
  ⟨hp.looks.followedBy fun _ => ⟨trivial, fun _ => trivial⟩,
    hp.commits.followedBy fun _ => ⟨id, fun _ => trivial⟩⟩

theorem Footprint.map {p : Procedure α} (hp : w.Footprint name leaves sight p) (f : α → β) :
    w.Footprint name leaves sight (f <$> p) :=
  ⟨hp.looks.map f, hp.commits.map f⟩

/-- What only counts if a check passes. -/
theorem Footprint.lift_bind {result : Outcome α} {next : α → Procedure β}
    (h : ∀ a, result = .ok a → w.Footprint name leaves sight (next a)) :
    w.Footprint name leaves sight (Dialogue.lift result >>= next) := by
  cases result with
  | ok a => exact h a rfl
  | error e => exact .of_minor trivial

/-- What is about one name and writes one record leaves a footprint, without a look. -/
theorem Footprint.of_own {p : Procedure α} (hown : p.OnlyAsks (Request.Own name leaves))
    (hcommits : CommitsOnce p) : w.Footprint name leaves sight p :=
  ⟨hown.once, hcommits⟩

theorem own_put {record : Record} (h : leaves (some record)) (mode : WriteMode) :
    (Procedure.catalog (.put name record mode)).OnlyAsks (Request.Own name leaves) :=
  ⟨⟨rfl, h⟩, fun _ => trivial⟩

theorem own_delete (h : leaves none) :
    (Procedure.catalog (.delete name)).OnlyAsks (Request.Own name leaves) :=
  ⟨⟨rfl, h⟩, fun _ => trivial⟩

theorem commitsOnce_put (name : String) (record : Record) (mode : WriteMode) :
    CommitsOnce (Procedure.catalog (.put name record mode)) :=
  .inr ⟨trivial, fun _ _ hsame => congrArg _ hsame, fun _ => trivial⟩

theorem commitsOnce_delete (name : String) : CommitsOnce (Procedure.catalog (.delete name)) :=
  .inr ⟨trivial, fun _ _ hsame => congrArg _ hsame, fun _ => trivial⟩

/-- What follows the look for a runner only depends on whether there is one. -/
theorem loadRunner_bind (runner : String) (next : Procedure β) :
    (loadRunner runner >>= fun _ => next) =
      Procedure.catalog (.get runner) >>= fun record =>
        if record.any Runner.isRecord then next
        else Dialogue.fail (.notFound runnerResource runner) := by
  rw [loadRunner, Dialogue.bind_assoc]
  refine congrArg _ (funext fun record => ?_)
  cases record with
  | none => rfl
  | some record =>
    simp only [Option.any_some]
    split <;> rfl

/-- A look at the catalog that goes on in the same way for what is seen alike. -/
theorem footprint_lookUp (call : CatalogCall) (hlook : (Request.catalog call).LooksUp)
    {next : call.Reply → Procedure β}
    (halike : ∀ a b, w.SeenAlike sight (.catalog call) (.ok a) (.ok b) → next a = next b)
    (hnext : ∀ a, (next a).OnlyAsks (Request.Own name leaves))
    (hcommits : ∀ a, CommitsOnce (next a)) :
    w.Footprint name leaves sight (Procedure.catalog call >>= next) := by
  refine ⟨.inr ⟨hlook, ?_, fun reply => ?_⟩, .inl ⟨?_, fun reply => ?_⟩⟩
  · rintro _ _ ⟨d, e, hsame, rfl, rfl⟩
    cases call with
    | get n => exact halike _ _ ⟨d, e, hsame, rfl, rfl⟩
    | list => exact halike _ _ ⟨d, e, hsame, rfl, rfl⟩
    | _ => exact hlook.elim
  · cases reply with
    | ok a => exact hnext a
    | error e => trivial
  · cases call <;> first | exact id | exact hlook.elim
  · cases reply with
    | ok a => exact hcommits a
    | error e => trivial

/-! ## Mutations of runners -/

theorem footprint_writeRunner {r : Runner} (mode : WriteMode)
    (h : r.validate = .ok () → leaves (some r.toRecord)) :
    w.Footprint r.name leaves sight (writeRunner r mode) := by
  refine .lift_bind fun _ hvalid => ?_
  refine .bind (.of_own (own_put (h hvalid) mode) (commitsOnce_put _ _ _)) fun _ => ?_
  cases r.token with
  | none => exact minor_getRunner
  | some token => exact (minor_applySecret _).bind fun _ => minor_getRunner

/-- The removal of a definition and of its secret. -/
theorem own_removal (h : leaves none) : (do
    Procedure.catalog (.delete name)
    Procedure.secrets (.delete name) : Procedure Unit).OnlyAsks (Request.Own name leaves) :=
  (own_delete h).bind fun _ => minor_secrets_delete.own leaves

theorem commitsOnce_removal (name : String) : CommitsOnce (do
    Procedure.catalog (.delete name)
    Procedure.secrets (.delete name) : Procedure Unit) :=
  (commitsOnce_delete name).bind fun _ =>
    (minor_secrets_delete : (Procedure.secrets (.delete name)).Minor name).not_commits

/-- The first task that refers to a runner depends only on which records do. -/
theorem dependentTask?_congr {d e : Definitions}
    (h : ∀ n, refersTo name (d.catalog.get? n) = refersTo name (e.catalog.get? n)) :
    dependentTask? d.catalog.toList name = dependentTask? e.catalog.toList name := by
  let referring (d : Definitions) : Dict Unit :=
    (d.catalog.filter fun _ record => refersTo name (some record)).map fun _ => ()
  have hfirst (d : Definitions) :
      dependentTask? d.catalog.toList name = (referring d).keys.head? := by
    simp only [referring, Dict.keys, Dict.map, Dict.filter, List.map_map, List.head?_map,
      List.head?_filter]
    rfl
  have hget (d : Definitions) (n : String) :
      (referring d).get? n = if refersTo name (d.catalog.get? n) then some () else none := by
    ext u
    simp only [referring, Dict.get?_map, Option.map_eq_some_iff, Dict.get?_filter]
    cases d.catalog.get? n with
    | none => simp [refersTo]
    | some record => simp
  have hsame : referring d = referring e := Dict.ext_get? fun n => by rw [hget, hget, h]
  rw [hfirst, hfirst, hsame]

/-- Where a task refers to a runner, there is a first one. -/
theorem dependentTask?_ne_none {d : Definitions} {task : String}
    (h : refersTo name (d.catalog.get? task) = true) :
    dependentTask? d.catalog.toList name ≠ none := by
  intro hnone
  rw [dependentTask?, Option.map_eq_none_iff, List.find?_eq_none] at hnone
  cases hget : d.catalog.get? task with
  | none => simp [refersTo, hget] at h
  | some record =>
    rw [hget] at h
    exact hnone (task, record) (Dict.mem_toList.mpr hget) h

theorem footprint_deleteRunner (principal : Principal) (hleaves : leaves none)
    (hsight : ∀ n record, sight n record = refersTo name record) :
    w.Footprint name leaves sight (deleteRunner principal name) := by
  refine .audited (.minor_bind minor_loadRunner fun _ => ?_) _ _ _ _
  refine footprint_lookUp .list trivial ?_ (fun records => ?_) fun records => ?_
  · rintro a b ⟨d, e, hsame, ha, hb⟩
    cases ha
    cases hb
    simp only [hsight] at hsame
    simp only [dependentTask?_congr hsame]
  · split
    · trivial
    · exact own_removal hleaves
  · split
    · trivial
    · exact commitsOnce_removal name

/-! ## Mutations of tasks -/

theorem footprint_writeTask {t : Task} (mode : WriteMode)
    (h : t.validate = .ok () → leaves (some t.toRecord))
    (hsight : ∀ record, sight t.runner record = record.any Runner.isRecord) :
    w.Footprint t.name leaves sight (writeTask t mode) := by
  rw [writeTask_eq]
  refine .lift_bind fun _ hvalid => .lift_bind fun _ _ => ?_
  have hrest : (do storeSecret t mode; getTask t.name : Procedure Task).Minor t.name :=
    (minor_storeSecret t mode).bind fun _ => minor_getTask
  rw [loadRunner_bind]
  refine footprint_lookUp (.get t.runner) trivial ?_ (fun record => ?_) fun record => ?_
  · rintro a b ⟨d, e, hsame, ha, hb⟩
    cases ha
    cases hb
    have hrunner := hsame t.runner
    rw [hsight, hsight] at hrunner
    simp only [hrunner]
  · split
    · exact (own_put (h hvalid) mode).bind fun _ => hrest.own leaves
    · trivial
  · split
    · exact (commitsOnce_put _ _ _).bind fun _ => hrest.not_commits
    · trivial

theorem footprint_deleteTask (principal : Principal) (hleaves : leaves none) :
    w.Footprint name leaves sight (deleteTask principal name) := by
  refine .audited (.minor_bind minor_loadTask fun _ => ?_) _ _ _ _
  refine .minor_bind (minor_listCronJobs _) fun cronJobs => ?_
  cases cronJobs with
  | cons c rest => exact .of_minor trivial
  | nil =>
    refine .minor_bind (minor_listDeployments _) fun deployments => ?_
    cases deployments with
    | cons c rest => exact .of_minor trivial
    | nil => exact .of_own (own_removal hleaves) (commitsOnce_removal name)

theorem footprint_updateSchema (principal : Principal) (schema : Json)
    (h : ∀ t : Task, t.runner ≠ "" → leaves (some t.toRecord)) :
    w.Footprint name leaves sight (updateSchema principal name schema) := by
  refine .audited (.lift_bind fun _ _ => ?_) _ _ _ _
  rw [loadTask_eq, Dialogue.bind_assoc]
  refine .minor_bind minor_catalog_get fun record => .lift_bind fun t ht => ?_
  have hrunner : t.runner ≠ "" := Task.runner_ne_of_loaded ht
  have hleaves := h { t with schema := some schema } hrunner
  exact .bind (.of_own (own_put hleaves _) (commitsOnce_put _ _ _)) fun _ => trivial

theorem footprint_deleteSchema (principal : Principal)
    (h : ∀ t : Task, t.runner ≠ "" → leaves (some t.toRecord)) :
    w.Footprint name leaves sight (deleteSchema principal name) := by
  refine .audited ?_ _ _ _ _
  rw [loadTask_eq, Dialogue.bind_assoc]
  refine .minor_bind minor_catalog_get fun record => .lift_bind fun t ht => ?_
  have hrunner : t.runner ≠ "" := Task.runner_ne_of_loaded ht
  have hleaves := h { t with schema := none } hrunner
  split
  · exact .bind (.of_own (own_put hleaves _) (commitsOnce_put _ _ _)) fun _ => trivial
  · exact .of_minor trivial

/-- Every mutation of the catalog leaves such a footprint. -/
theorem footprint_call (config : EngineConfig) {call : ServiceCall} {m : Mutation}
    (h : call.mutation? = some m) :
    w.Footprint m.name m.Leaves m.sees (call.procedure config) := by
  cases call <;> cases h
  case createRunner principal r =>
    refine .map (.audited (footprint_writeRunner _ fun hvalid => ?_) _ _ _ _) _
    exact ⟨Standing.holds_runner hvalid, by simp⟩
  case updateRunner principal r =>
    refine .map (.audited (.minor_bind minor_loadRunner fun _ => ?_) _ _ _ _) _
    exact footprint_writeRunner _ fun hvalid => ⟨Standing.holds_runner hvalid, by simp⟩
  case deleteRunner principal name =>
    refine .map (footprint_deleteRunner principal ⟨trivial, by simp⟩ fun n record => ?_) _
    simp [Mutation.sees]
  case createTask principal t =>
    refine .map (.audited (footprint_writeTask _ (fun hvalid => ?_) fun record => ?_) _ _ _ _) _
    · exact Mutation.leaves_toRecord rfl (by simp) (Task.runner_ne_of_validate hvalid)
    · simp [Mutation.sees]
  case updateTask principal t =>
    refine .map (.audited (.minor_bind minor_loadTask fun _ => ?_) _ _ _ _) _
    refine footprint_writeTask _ (fun hvalid => ?_) fun record => ?_
    · exact Mutation.leaves_toRecord rfl (by simp) (Task.runner_ne_of_validate hvalid)
    · simp [Mutation.sees]
  case deleteTask principal name =>
    exact .map (footprint_deleteTask principal ⟨trivial, by simp⟩) _
  case updateSchema principal name schema =>
    exact .map (footprint_updateSchema principal schema fun t ht =>
      Mutation.leaves_toRecord rfl (by simp) ht) _
  case deleteSchema principal name =>
    exact .map (footprint_deleteSchema principal fun t ht =>
      Mutation.leaves_toRecord rfl (by simp) ht) _

end World

end TaskEngine
