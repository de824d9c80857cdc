import TaskEngine.Proofs.Engine.Definitions
import TaskEngine.Proofs.Engine.Edits
import TaskEngine.Proofs.Interleaving.Bystanders

/-!
# Rivals for one name

Two creations under a free name only look until one of them takes it; the other one then fails as if
it had begun too late. Two edits of the schema of a task each load the task and write it back with a
schema of their own: whatever the task was loaded with, the record that is written is the same.
-/

namespace TaskEngine

open Engine

namespace Dialogue

variable {Request : Type} {Reply : Request → Type} {α β σ : Type}
  {answer : (r : Request) → σ → Reply r × σ} {s : σ} {Ours : σ → Prop}
  {p : Dialogue Request Reply α}

/-- Who changes nothing only looks. -/
theorem tentative_of_idles {Won Lost : Dialogue Request Reply α → Prop} {result : Outcome α}
    (h : p.Idles answer (fun _ => True) result) : p.Tentative answer s Ours Won Lost := by
  cases p with
  | done a => trivial
  | ask r next => exact .inl ⟨result, h⟩

/-- What follows without a change of its own follows whoever comes first. -/
theorem Tentative.followedBy {Won Lost : Dialogue Request Reply α → Prop}
    {Won' Lost' : Dialogue Request Reply β → Prop} {k : Outcome α → Dialogue Request Reply β}
    (h : p.Tentative answer s Ours Won Lost)
    (hk : ∀ a, ∃ b, (k a).Idles answer (fun _ => True) b)
    (hwon : ∀ w, Won w → Won' (w.followedBy k)) (hlost : ∀ l, Lost l → Lost' (l.followedBy k)) :
    (p.followedBy k).Tentative answer s Ours Won' Lost' := by
  induction p with
  | done a =>
    obtain ⟨b, hb⟩ := hk a
    exact tentative_of_idles hb
  | ask r next ih =>
    rcases h with ⟨a, hidles⟩ | ⟨hl, ⟨hsame, hnext⟩ | ⟨hours, hw⟩⟩
    · obtain ⟨b, hb⟩ := hk a
      exact .inl ⟨b, Along.followedBy hidles fun a' ha => ha ▸ hb⟩
    · exact .inr ⟨hlost _ hl, .inl ⟨hsame, ih _ hnext⟩⟩
    · exact .inr ⟨hlost _ hl, .inr ⟨hours, hwon _ hw⟩⟩

end Dialogue

namespace World

variable {w : World} {α β : Type} {name : String} {d : Definitions}

/-! ## Creations -/

/-- A creation takes a free name, or comes too late if the name has been taken; then it fails as it
would have failed from the beginning. -/
def Rival (w : World) (d : Definitions) (name : String) (s t : Standing) (p : Procedure α) : Prop :=
  p.Tentative w.answerDefinitions d (StandsFor d name s)
    (fun rest => rest.Keeps w.answerDefinitions (StandsFor d name s))
    fun late => ∃ result, late.Idles w.answerDefinitions (StandsFor d name t) result ∧
      p.Idles w.answerDefinitions (StandsFor d name t) result

variable {s t : Standing}

theorem Rival.followedBy {p : Procedure α} (h : w.Rival d name s t p)
    {k : Outcome α → Procedure β}
    (hk : ∀ a, ∃ b, (k a).Idles w.answerDefinitions (fun _ => True) b) :
    w.Rival d name s t (p.followedBy k) := by
  refine Dialogue.Tentative.followedBy h hk (fun rest hrest => ?_) fun late hlate => ?_
  · refine hrest.followedBy fun a _ => ?_
    obtain ⟨b, hb⟩ := hk a
    exact hb.mono (fun _ _ => trivial) (fun e e' he hsame => hsame ▸ he) fun _ _ => trivial
  · obtain ⟨result, hidles, hfresh⟩ := hlate
    obtain ⟨b, hb⟩ := hk result
    have hb' : (k result).Idles w.answerDefinitions (StandsFor d name t) b :=
      hb.mono (fun _ _ => trivial) (fun _ _ _ hsame => hsame) fun _ h => h
    exact ⟨b, hidles.followedBy fun a ha => ha ▸ hb', hfresh.followedBy fun a ha => ha ▸ hb'⟩

theorem Rival.map {p : Procedure α} (h : w.Rival d name s t p) (f : α → β) :
    w.Rival d name s t (f <$> p) := by
  refine Rival.followedBy h fun a => ?_
  cases a with
  | ok a => exact ⟨.ok (f a), rfl⟩
  | error e => exact ⟨.error e, rfl⟩

theorem Rival.audited {p : Procedure α} (h : w.Rival d name s t p) (principal : Principal)
    (action : AuditAction) (category : ResourceKind) (target : String) :
    w.Rival d name s t (Procedure.audited principal action category target p) :=
  Rival.followedBy h fun result => ⟨result, fun _ _ => ⟨rfl, rfl⟩⟩

/-- The write of a creation takes the name. -/
theorem standsFor_put {record : Record} (hfree : d.catalog.get? name = none)
    (hholds : s.Holds (some record)) :
    StandsFor d name s (w.answerDefinitions (.catalog (.put name record .create)) d).2 := by
  have hcontains : d.catalog.contains name = false := Dict.contains_eq_false_iff.mpr hfree
  have hown : (Request.catalog (.put name record .create)).Own name fun _ => True := ⟨rfl, trivial⟩
  refine ⟨?_, fun n hn => under_of_own w hown hn d⟩
  simp only [answerDefinitions_put, hcontains, WriteMode.demand]
  simpa using hholds

/-- A write under a free name, and what follows about that name, at the end of a procedure that
would have failed in the same way from its beginning. -/
theorem tentative_put {p : Procedure α} {record : Record} {next : Record → Procedure α}
    (hfree : d.catalog.get? name = none) (ht : t ≠ .free) (hholds : s.Holds (some record))
    (hnext : ∀ a, (next a).Minor name)
    (hp : p.Idles w.answerDefinitions (StandsFor d name t)
      (.error (.conflict CatalogCall.resource name))) :
    (Procedure.catalog (.put name record .create) >>= next).Tentative w.answerDefinitions d
      (StandsFor d name s) (fun rest => rest.Keeps w.answerDefinitions (StandsFor d name s))
      fun late => ∃ result, late.Idles w.answerDefinitions (StandsFor d name t) result ∧
        p.Idles w.answerDefinitions (StandsFor d name t) result := by
  have hother : ∀ e, StandsFor d name t e → Standing.free.Other (e.catalog.get? name) :=
    fun e he => he.other ht.symm
  have hlate := idles_create (w := w) hother record next
  refine .inr ⟨⟨_, hlate, hp⟩, .inr ⟨standsFor_put hfree hholds, ?_⟩⟩
  cases (w.answerDefinitions (.catalog (.put name record .create)) d).1 with
  | error e => trivial
  | ok a =>
    have hlooks : w.LooksOnce name (fun _ => False) (fun _ _ => false) (next a) :=
      ((hnext a).own _).once
    exact hlooks.keeps_standing fun _ hfalse => hfalse.elim

theorem rival_writeRunner {r : Runner} (hfree : d.catalog.get? r.name = none) (ht : t ≠ .free) :
    w.Rival d r.name .runner t (writeRunner r .create) := by
  rw [writeRunner]
  cases hvalid : r.validate with
  | error e => trivial
  | ok u =>
    refine tentative_put hfree ht (Standing.holds_runner hvalid) (fun _ => ?_)
      (idles_create (fun e he => he.other ht.symm) r.toRecord _)
    cases r.token with
    | none => exact minor_getRunner
    | some token => exact (minor_applySecret _).bind fun _ => minor_getRunner

/-- A write under a free name once there is a runner. -/
theorem rival_createFor {runner : String} {record : Record} {next : Record → Procedure α}
    (hfree : d.catalog.get? name = none) (ht : t ≠ .free) (hholds : s.Holds (some record))
    (hnext : ∀ a, (next a).Minor name) :
    w.Rival d name s t
      (loadRunner runner >>= fun _ => Procedure.catalog (.put name record .create) >>= next) := by
  have hother : ∀ e, StandsFor d name t e → Standing.free.Other (e.catalog.get? name) :=
    fun e he => he.other ht.symm
  obtain ⟨result, hlate⟩ :=
    futile_createFor (w := w) hother (fun e he => he.any_isRunner runner) record next
  rw [loadRunner_bind] at hlate ⊢
  refine .inr ⟨⟨result, hlate, hlate⟩, .inl ⟨rfl, ?_⟩⟩
  change (ite ((d.catalog.get? runner).any Runner.isRecord = true) _ _ : Procedure α).Tentative
    _ _ _ _ _
  by_cases hrunner : (d.catalog.get? runner).any Runner.isRecord = true
  · -- The runner has another name, so it is there however late the creation comes.
    have hname : runner ≠ name := by
      rintro rfl
      simp [hfree] at hrunner
    rw [if_pos hrunner]
    refine tentative_put hfree ht hholds hnext (idles_catalog_get fun e he => ?_)
    rw [he.any_isRunner, if_neg hname, if_pos hrunner]
    exact idles_create hother record next
  · rw [if_neg hrunner]
    trivial

theorem rival_writeTask {task : Task} (hfree : d.catalog.get? task.name = none) (ht : t ≠ .free) :
    w.Rival d task.name .task t (writeTask task .create) := by
  rw [writeTask_eq]
  cases hvalid : task.validate with
  | error e => trivial
  | ok _ =>
    cases checkedSchema task with
    | error e => trivial
    | ok _ =>
      exact rival_createFor hfree ht (Standing.holds_task (Task.runner_ne_of_validate hvalid))
        fun _ => (minor_storeSecret task .create).bind fun _ => minor_getTask

variable {config : EngineConfig} {call call' : ServiceCall} {m n : Mutation}
  {ends : (Outcome ServiceReply × Outcome ServiceReply) × Definitions}

theorem rival_call (config : EngineConfig) (h : call.mutation? = some m) (hm : m.before = .free)
    (hfree : d.catalog.get? m.name = none) (ht : t ≠ .free) :
    w.Rival d m.name m.after t (call.procedure config) := by
  cases call <;> cases h <;> try cases hm
  case createRunner principal r => exact ((rival_writeRunner hfree ht).audited _ _ _ _).map _
  case createTask principal task => exact ((rival_writeTask hfree ht).audited _ _ _ _).map _

/-- A late creation fails as it would have failed if it had begun only then. -/
theorem eq_serial_of_late {p : Procedure α} {late q : Procedure β}
    {ends : (Outcome α × Outcome β) × Definitions}
    (hp : p.Keeps w.answerDefinitions (StandsFor d name s))
    (hlate : ∃ result, late.Idles w.answerDefinitions (StandsFor d name s) result ∧
      q.Idles w.answerDefinitions (StandsFor d name s) result)
    {e : Definitions} (he : StandsFor d name s e)
    (hraces : Dialogue.Races w.answerDefinitions p late e ends) :
    ends = Dialogue.serial w.answerDefinitions p q e := by
  obtain ⟨result, hidles, hfresh⟩ := hlate
  refine (hraces.eq_serial hp hidles he).trans (Dialogue.serial_congr_right ?_)
  rw [hidles.run (hp.run he), hfresh.run (hp.run he)]

/-- Two creations under a free name are as good as one after the other. -/
theorem serializable_creations (config : EngineConfig) (h : call.mutation? = some m)
    (h' : call'.mutation? = some n) (hname : n.name = m.name) (hm : m.before = .free)
    (hn : n.before = .free) (hfree : d.catalog.get? m.name = none)
    (hraces : Dialogue.Races w.answerDefinitions (call.procedure config) (call'.procedure config) d
      ends) :
    ends = Dialogue.serial w.answerDefinitions (call.procedure config) (call'.procedure config) d ∨
      ends = Dialogue.swapped
        (Dialogue.serial w.answerDefinitions (call'.procedure config) (call.procedure config)
          d) := by
  have htaken : m.after ≠ .free := by cases call <;> cases h <;> simp_all
  have htaken' : n.after ≠ .free := by cases call' <;> cases h' <;> simp_all
  have hp := rival_call (w := w) config h hm hfree htaken'
  have hq := rival_call (w := w) config h' hn (hname ▸ hfree) htaken
  rw [hname] at hq
  exact hraces.contest hp hq rfl rfl
    (fun _ _ _ _ hwon hlate he hraces => eq_serial_of_late hwon hlate he hraces)
    fun _ _ _ _ hwon hlate he hraces => eq_serial_of_late hwon hlate he hraces

/-! ## Edits of a schema -/

/-- The definitions after an edit of the schema of a task: the task is still read back, but with a
schema of its own. -/
def Reshaped (d : Definitions) (name : String) (e : Definitions) : Prop :=
  ∃ task schema again, Task.loaded name (d.catalog.get? name) = .ok task ∧
    e.catalog.get? name = some { task with schema }.toRecord ∧
    Task.loaded name (e.catalog.get? name) = .ok { task with schema := again } ∧
    (again = none → schema = none)

/-- An edit of a schema ends as it would have ended had it begun only after the other one. -/
def Reviser (w : World) (d : Definitions) (name : String) (p : Procedure α) : Prop :=
  p.Tentative w.answerDefinitions d (Reshaped d name)
    (fun rest => ∃ result, rest.Idles w.answerDefinitions (fun _ => True) result)
    fun late => ∀ e, Reshaped d name e →
      late.run w.answerDefinitions e = p.run w.answerDefinitions e

theorem Reviser.followedBy {p : Procedure α} (h : w.Reviser d name p) {k : Outcome α → Procedure β}
    (hk : ∀ a, ∃ b, (k a).Idles w.answerDefinitions (fun _ => True) b) :
    w.Reviser d name (p.followedBy k) := by
  refine Dialogue.Tentative.followedBy h hk (fun rest hrest => ?_) fun late hlate e he => ?_
  · obtain ⟨result, hidles⟩ := hrest
    obtain ⟨b, hb⟩ := hk result
    exact ⟨b, hidles.followedBy fun a ha => ha ▸ hb⟩
  · rw [Dialogue.run_followedBy, Dialogue.run_followedBy, hlate e he]

theorem Reviser.map {p : Procedure α} (h : w.Reviser d name p) (f : α → β) :
    w.Reviser d name (f <$> p) := by
  refine Reviser.followedBy h fun a => ?_
  cases a with
  | ok a => exact ⟨.ok (f a), rfl⟩
  | error e => exact ⟨.error e, rfl⟩

theorem Reviser.audited {p : Procedure α} (h : w.Reviser d name p) (principal : Principal)
    (action : AuditAction) (category : ResourceKind) (target : String) :
    w.Reviser d name (Procedure.audited principal action category target p) :=
  Reviser.followedBy h fun result => ⟨result, fun _ _ => ⟨rfl, rfl⟩⟩

/-- A task that is loaded is loaded again after its record was written with a schema that reads. -/
theorem loaded_toRecord {record : Option Record} {task : Task}
    (hload : Task.loaded name record = .ok task) {schema : Option Json}
    (hrereads : ∀ s, schema = some s → s.Rereads) :
    ∃ again, Task.loaded name (some { task with schema }.toRecord) =
      .ok { task with schema := again } ∧ (again = none → schema = none) := by
  obtain ⟨stored, -, -, hread⟩ := Task.loaded_eq_ok hload
  obtain ⟨hname, -, -, hsecret⟩ := Task.ofRecord_fields hread
  have hrunner : task.runner ≠ "" := Task.runner_ne_of_loaded hload
  have htask : Standing.task.Holds (some { task with schema }.toRecord) :=
    Standing.holds_task hrunner
  rw [Task.loaded, htask.2, if_pos rfl, ← hname, Task.ofRecord_toRecord { task with schema }]
  cases schema with
  | none => exact ⟨none, by simp [Task.reread?, hsecret], fun _ => rfl⟩
  | some s =>
    obtain ⟨again, hagain⟩ := hrereads s rfl
    exact ⟨some again, by simp [Task.reread?, hagain, hsecret], by simp⟩

/-- A write of a record in place of another one. -/
theorem answerDefinitions_replace (record : Record) (hsome : (d.catalog.get? name).isSome = true) :
    w.answerDefinitions (.catalog (.put name record .update)) d =
      (.ok record, { d with catalog := d.catalog.insert name record }) := by
  have htaken : d.catalog.contains name = true := hsome
  simp only [answerDefinitions_put, htaken, WriteMode.demand]

/-- The write of an edit, at the end of a procedure that would write the same at any time. -/
theorem tentative_putSchema {p : Procedure α} {task : Task} (schema : Option Json)
    (result : Outcome α) (hload : Task.loaded name (d.catalog.get? name) = .ok task)
    (hrereads : ∀ s, schema = some s → s.Rereads)
    (hp : ∀ e, Reshaped d name e →
      (Procedure.catalog (.put name { task with schema }.toRecord .update) >>= fun _ =>
        Dialogue.done result).run w.answerDefinitions e = p.run w.answerDefinitions e) :
    (Procedure.catalog (.put name { task with schema }.toRecord .update) >>= fun _ =>
      Dialogue.done result).Tentative w.answerDefinitions d (Reshaped d name)
        (fun rest => ∃ result, rest.Idles w.answerDefinitions (fun _ => True) result)
        fun late => ∀ e, Reshaped d name e →
          late.run w.answerDefinitions e = p.run w.answerDefinitions e := by
  obtain ⟨stored, hstored, -, -⟩ := Task.loaded_eq_ok hload
  have hput := answerDefinitions_replace (w := w) { task with schema }.toRecord
    (by rw [hstored]; rfl : (d.catalog.get? name).isSome = true)
  obtain ⟨again, hagain, hnone⟩ := loaded_toRecord hload hrereads
  refine .inr ⟨hp, .inr ⟨⟨task, schema, again, hload, ?_, ?_, hnone⟩, ?_⟩⟩
  · rw [hput]
    simp
  · rw [hput]
    simpa using hagain
  · rw [hput]
    exact ⟨result, rfl⟩

/-- What follows the load of a task is done with the task that is loaded. -/
theorem run_loadTask_bind (name : String) (next : Task → Procedure α) (e : Definitions) :
    (loadTask name >>= next).run w.answerDefinitions e =
      (Dialogue.lift (Task.loaded name (e.catalog.get? name)) >>= next).run w.answerDefinitions
        e := by
  rw [loadTask_eq, Dialogue.bind_assoc]
  rfl

/-- A task is loaded, and what follows would have been the same at any time. -/
theorem reviser_loadTask {next : Task → Procedure α}
    (h : ∀ task, Task.loaded name (d.catalog.get? name) = .ok task →
      (next task).Tentative w.answerDefinitions d (Reshaped d name)
        (fun rest => ∃ result, rest.Idles w.answerDefinitions (fun _ => True) result)
        fun late => ∀ e, Reshaped d name e → late.run w.answerDefinitions e =
          (loadTask name >>= next).run w.answerDefinitions e) :
    w.Reviser d name (loadTask name >>= next) := by
  unfold Reviser
  have hrun := run_loadTask_bind (w := w) name next
  rw [loadTask_eq, Dialogue.bind_assoc] at h hrun ⊢
  refine .inr ⟨fun _ _ => rfl, .inl ⟨rfl, ?_⟩⟩
  change (Dialogue.lift (Task.loaded name (d.catalog.get? name)) >>= next).Tentative _ _ _ _ _
  cases hload : Task.loaded name (d.catalog.get? name) with
  | error e => trivial
  | ok task => exact h task hload

theorem reviser_updateSchema (principal : Principal) {schema : Json} (hrereads : schema.Rereads) :
    w.Reviser d name (updateSchema principal name schema) := by
  refine .audited ?_ _ _ _ _
  cases Schema.check schema with
  | error e => trivial
  | ok u =>
    refine reviser_loadTask fun task hload => ?_
    refine tentative_putSchema (some schema) (.ok schema) hload (fun s hs => ?_) fun e he => ?_
    · exact Option.some.inj hs ▸ hrereads
    · obtain ⟨task', schema', again, hload', -, hread, -⟩ := he
      cases hload.symm.trans hload'
      rw [run_loadTask_bind, hread]
      rfl

theorem reviser_deleteSchema (principal : Principal) :
    w.Reviser d name (deleteSchema principal name) := by
  refine .audited (reviser_loadTask fun task hload => ?_) _ _ _ _
  cases hschema : task.schema with
  | none => trivial
  | some stored =>
    refine tentative_putSchema none (.ok ()) hload (by simp) fun e he => ?_
    obtain ⟨task', schema', again, hload', hrecord, hread, hnone⟩ := he
    cases hload.symm.trans hload'
    rw [run_loadTask_bind, hread]
    cases again with
    | some schema => rfl
    | none =>
      -- The other one has removed the schema, so the write changes nothing.
      rw [hnone rfl] at hrecord
      have hput := answerDefinitions_replace (w := w) { task with schema := none }.toRecord
        (by rw [hrecord]; rfl : (e.catalog.get? name).isSome = true)
      rw [Dict.insert_eq_self hrecord] at hput
      change Dialogue.run w.answerDefinitions (.ask (.catalog (.put name _ .update)) _) e =
        (.ok (), e)
      rw [Dialogue.run_ask, hput]
      rfl

theorem reviser_call (config : EngineConfig) (h : call.schemaOf? = some name)
    (hrereads : ∀ schema, call.schema? = some schema → schema.Rereads) :
    w.Reviser d name (call.procedure config) := by
  cases call <;> cases h
  case updateSchema principal schema =>
    exact (reviser_updateSchema principal (hrereads schema rfl)).map _
  case deleteSchema principal => exact (reviser_deleteSchema principal).map _

/-- Two edits of one schema are as good as one after the other, if the schemas are read back. -/
theorem serializable_schemas (config : EngineConfig) (h : call.schemaOf? = some name)
    (h' : call'.schemaOf? = some name)
    (hrereads : ∀ schema, call.schema? = some schema → schema.Rereads)
    (hrereads' : ∀ schema, call'.schema? = some schema → schema.Rereads)
    (hraces : Dialogue.Races w.answerDefinitions (call.procedure config) (call'.procedure config) d
      ends) :
    ends = Dialogue.serial w.answerDefinitions (call.procedure config) (call'.procedure config) d ∨
      ends = Dialogue.swapped
        (Dialogue.serial w.answerDefinitions (call'.procedure config) (call.procedure config)
          d) := by
  refine hraces.contest (reviser_call config h hrereads) (reviser_call config h' hrereads') rfl rfl
    (fun rest late e ends hwon hlate he hraces => ?_)
    fun rest late e ends hwon hlate he hraces => ?_
  · obtain ⟨result, hidles⟩ := hwon
    exact congrArg Dialogue.swapped (hraces.symm.eq_of_idles hidles rfl (hlate e he))
  · obtain ⟨result, hidles⟩ := hwon
    exact congrArg Dialogue.swapped (hraces.symm.eq_of_idles hidles rfl (hlate e he))

end World

end TaskEngine
