import TaskEngine.Proofs.Interleaving.Rivals

/-!
# Mutations of the catalog at the same time

The stores answer one request at a time, and nothing is locked between the requests of a mutation.
Two mutations at the same time still come to what they come to one after the other, in one of the
two orders, unless both could be made of one name, or one removes a runner while the other lets a
task refer to it. Of the mutations of one name, creations are safe from each other, and so are edits
of one schema.
-/

namespace TaskEngine

open Engine

/-! ## Mutations that collide -/

/-- Two mutations could both be made of one name: the one finds what it wants, and the other wants
the same, or what the one leaves. -/
structure Mutation.Contends (m n : Mutation) (d : Definitions) : Prop where
  name : n.name = m.name
  before : m.before.Holds (d.catalog.get? m.name)
  meets : n.before = m.before ∨ n.before = m.after

namespace ServiceCall

/-- Whether a call edits the schema of a task, and gives it one that is read back if any. -/
structure Revises (call : ServiceCall) (name : String) : Prop where
  edits : call.schemaOf? = some name
  rereads : ∀ schema, call.schema? = some schema → schema.Rereads

/-- Two mutations collide: one undercuts the other, or they contend for a name, unless both create
it or both edit its schema. -/
def Collide (call call' : ServiceCall) (d : Definitions) : Prop :=
  ∃ m n, call.mutation? = some m ∧ call'.mutation? = some n ∧
    (m.Undercuts n d ∨ n.Undercuts m d ∨
      (m.Contends n d ∨ n.Contends m d) ∧ ¬ (m.before = .free ∧ n.before = .free) ∧
        ¬ (call.Revises m.name ∧ call'.Revises m.name))

end ServiceCall

namespace World

variable {w : World} {config : EngineConfig} {call call' : ServiceCall} {m n : Mutation}
  {d : Definitions}

/-- Two mutations of one name that do not contend for it: one of them comes to nothing, whenever it
is made. -/
theorem serializable_of_not_contends (hm : call.mutation? = some m) (hn : call'.mutation? = some n)
    (hname : n.name = m.name) (hproper : d.Proper) (hmn : ¬ m.Contends n d)
    (hnm : ¬ n.Contends m d)
    {ends : (Outcome ServiceReply × Outcome ServiceReply) × Definitions}
    (hraces : Dialogue.Races w.answerDefinitions (call.procedure config) (call'.procedure config) d
      ends) :
    ends = Dialogue.serial w.answerDefinitions (call.procedure config) (call'.procedure config) d ∨
      ends = Dialogue.swapped
        (Dialogue.serial w.answerDefinitions (call'.procedure config) (call.procedure config)
          d) := by
  obtain ⟨s, hs⟩ := hproper m.name
  by_cases hbefore : n.before = s
  · have hbefore' : m.before ≠ s := fun hsame =>
      hmn ⟨hname, hsame ▸ hs, .inl (hbefore.trans hsame.symm)⟩
    have hends := eq_serial_of_other config hn hm hname.symm (hname ▸ hs) hbefore'
      (fun _ hafter => hnm ⟨hname.symm, hname ▸ hbefore ▸ hs, .inr hafter⟩) hraces.symm
    exact .inr (congrArg Dialogue.swapped hends)
  · exact .inl (eq_serial_of_other config hm hn hname hs hbefore
      (fun hsame hafter => hmn ⟨hname, hsame ▸ hs, .inr hafter⟩) hraces)

/-- Mutations that do not collide are as good as one after the other. -/
theorem serializable_definitions (hm : call.mutation? = some m) (hn : call'.mutation? = some n)
    (hproper : d.Proper) (hfree : ¬ call.Collide call' d)
    {ends : (Outcome ServiceReply × Outcome ServiceReply) × Definitions}
    (hraces : Dialogue.Races w.answerDefinitions (call.procedure config) (call'.procedure config) d
      ends) :
    ends = Dialogue.serial w.answerDefinitions (call.procedure config) (call'.procedure config) d ∨
      ends = Dialogue.swapped
        (Dialogue.serial w.answerDefinitions (call'.procedure config) (call.procedure config)
          d) := by
  by_cases hname : n.name = m.name
  · by_cases hcontend : m.Contends n d ∨ n.Contends m d
    · by_cases hcreate : m.before = .free ∧ n.before = .free
      · have hnone : d.catalog.get? m.name = none := by
          rcases hcontend with h | h
          · exact Standing.holds_free.mp (hcreate.1 ▸ h.before)
          · exact Standing.holds_free.mp (hcreate.2 ▸ h.name ▸ h.before)
        exact serializable_creations config hm hn hname hcreate.1 hcreate.2 hnone hraces
      · by_cases hrevise : call.Revises m.name ∧ call'.Revises m.name
        · exact serializable_schemas config hrevise.1.edits hrevise.2.edits hrevise.1.rereads
            hrevise.2.rereads hraces
        · exact absurd ⟨m, n, hm, hn, .inr (.inr ⟨hcontend, hcreate, hrevise⟩)⟩ hfree
    · obtain ⟨hmn, hnm⟩ := not_or.mp hcontend
      exact serializable_of_not_contends hm hn hname hproper hmn hnm hraces
  · refine serializable_of_ne config hm hn (Ne.symm hname) hproper (fun h => ?_) (fun h => ?_)
      hraces
    · exact hfree ⟨m, n, hm, hn, .inl h⟩
    · exact hfree ⟨m, n, hm, hn, .inr (.inl h)⟩

end World

/-! ## Worlds that are reached -/

namespace Stores

variable {s t : Stores}

/-- The definitions and secrets of stores. -/
def definitions (s : Stores) : Definitions := ⟨s.catalog.records, s.secrets.records⟩

/-- A record that makes its name stand for something may be written. -/
theorem proper_written (h : s.definitions.Proper) {name : String} {record : Record}
    (hrecord : ∃ standing : Standing, standing.Holds (some record)) (other : String) :
    ∃ standing : Standing,
      standing.Holds ((s.catalog.written name record).records.get? other) := by
  simp only [RecordStore.written, Dict.get?_insert]
  split
  · exact hrecord
  · exact h other

/-- Whatever happens, every name goes on to stand for something. -/
theorem proper_step (hstep : s.Step t) (h : s.definitions.Proper) : t.definitions.Proper := by
  cases hstep with
  | polled hpolled =>
    intro name
    change ∃ standing : Standing, standing.Holds (t.catalog.records.get? name)
    rw [hpolled.catalog]
    exact h name
  | launched made task owner jobSuffix podSuffix hlaunched hpolled =>
    intro name
    change ∃ standing : Standing, standing.Holds (t.catalog.records.get? name)
    rw [hpolled.catalog, hlaunched.catalog]
    exact h name
  | changed target hchange =>
    cases hchange with
    | runner valid => exact proper_written h ⟨.runner, Standing.holds_runner valid⟩
    | task valid =>
      exact proper_written h ⟨.task, Standing.holds_task (Task.runner_ne_of_validate valid)⟩
    | schema schema stored isTask read =>
      rename_i name record u
      have hrunner : u.runner ≠ "" :=
        (Task.ofRecord_fields read).2.1 ▸ Task.isRecord_iff.mp isTask
      exact proper_written h ⟨.task, Standing.holds_task (t := { u with schema }) hrunner⟩
    | removal unused =>
      rename_i name
      intro other
      change ∃ standing : Standing, standing.Holds ((s.catalog.records.erase name).get? other)
      rw [Dict.get?_erase]
      split
      · exact ⟨.free, trivial⟩
      · exact h other
    | _ => exact h

end Stores

namespace World

variable {w : World} {config : EngineConfig} {call call' : ServiceCall} {m n : Mutation}

/-- A world that comes about from empty stores by events one after the other and by races of
mutations. -/
inductive Reached (config : EngineConfig) : World → Prop
  | start : Reached config {}
  | event {w : World} (before : Reached config w) (event : SessionEvent) :
    Reached config (w.step config event).2
  | race {w : World} {call call' : ServiceCall}
    {ends : (Outcome ServiceReply × Outcome ServiceReply) × World} (before : Reached config w)
    (mutates : call.mutation?.isSome) (mutates' : call'.mutation?.isSome)
    (races : Dialogue.Races answer (call.procedure config) (call'.procedure config) w ends) :
    Reached config ends.2

/-- What is seen of two mutations in the end: the results, the catalog and the secrets. -/
def observed (ends : (Outcome ServiceReply × Outcome ServiceReply) × World) :
    (Outcome ServiceReply × Outcome ServiceReply) × Definitions :=
  (ends.1, ends.2.definitions)

/-- Two mutations at the same time come to what they come to one after the other. -/
def Serializable (w : World) (config : EngineConfig) (call call' : ServiceCall) : Prop :=
  ∀ ends, Dialogue.Races answer (call.procedure config) (call'.procedure config) w ends →
    observed ends =
        observed (Dialogue.serial answer (call.procedure config) (call'.procedure config) w) ∨
      observed ends = observed (Dialogue.swapped
        (Dialogue.serial answer (call'.procedure config) (call.procedure config) w))

/-- A mutation puts requests about single names, and looks at the catalog. -/
theorem onlyAsks_call (config : EngineConfig) (hm : call.mutation? = some m) :
    (call.procedure config).OnlyAsks fun r => ∃ name leaves, r.Own name leaves ∨ r.LooksUp :=
  (footprint_call (w := {}) config hm).looks.onlyAsks.mono fun _ hr => ⟨m.name, m.Leaves, hr⟩

/-- A world answers a mutation from what it keeps of definitions. -/
theorem answer_definitions (w : World) (r : Request) (v : World)
    (hr : ∃ name leaves, r.Own name leaves ∨ r.LooksUp) (hv : w.Redefines v) :
    (answer r v).1 = (w.answerDefinitions r v.definitions).1 ∧
      (answer r v).2.definitions = (w.answerDefinitions r v.definitions).2 ∧
      w.Redefines (answer r v).2 := by
  obtain ⟨name, leaves, hr⟩ := hr
  exact answer_eq_definitions hv hr

/-- The race of two mutations, as far as definitions and secrets go. -/
theorem races_definitions (hholds : w.StoresHold) (hm : call.mutation? = some m)
    (hn : call'.mutation? = some n)
    {ends : (Outcome ServiceReply × Outcome ServiceReply) × World}
    (hraces : Dialogue.Races answer (call.procedure config) (call'.procedure config) w ends) :
    Dialogue.Races w.answerDefinitions (call.procedure config) (call'.procedure config)
      w.definitions (observed ends) ∧ w.Redefines ends.2 :=
  hraces.of_view (w.answer_definitions) (onlyAsks_call config hm) (onlyAsks_call config hn)
    ⟨hholds, rfl, rfl, rfl⟩

theorem serial_definitions (hholds : w.StoresHold) (hm : call.mutation? = some m)
    (hn : call'.mutation? = some n) :
    Dialogue.serial w.answerDefinitions (call.procedure config) (call'.procedure config)
      w.definitions =
        observed (Dialogue.serial answer (call.procedure config) (call'.procedure config) w) :=
  Dialogue.serial_of_view (w.answer_definitions) (onlyAsks_call config hm)
    (onlyAsks_call config hn) ⟨hholds, rfl, rfl, rfl⟩

/-- Mutations leave every name standing for something. -/
theorem keeps_proper (config : EngineConfig) (hm : call.mutation? = some m) :
    (call.procedure config).Keeps w.answerDefinitions Definitions.Proper :=
  (footprint_call (w := w) config hm).looks.keeps_all
    (K := fun record => ∃ s : Standing, s.Holds record) fun _ hleft => ⟨m.after, hleft.standing⟩

/-- In a world that is reached the stores hold, and every name stands for something. -/
theorem Reached.holds (h : Reached config w) : w.StoresHold ∧ w.definitions.Proper := by
  induction h with
  | start => exact ⟨storesHold_of_calm rfl, fun name => ⟨.free, trivial⟩⟩
  | event before event ih =>
    exact ⟨storesHold_step ih.1 config event,
      Stores.proper_step (step_stores ih.1 config event) ih.2⟩
  | @race w call call' ends before mutates mutates' hraces ih =>
    obtain ⟨m, hm⟩ := Option.isSome_iff_exists.mp mutates
    obtain ⟨n, hn⟩ := Option.isSome_iff_exists.mp mutates'
    obtain ⟨hseen, hredefines⟩ := races_definitions ih.1 hm hn hraces
    exact ⟨hredefines.holds,
      hseen.keeps (keeps_proper config hm) (keeps_proper config hn) ih.2⟩

/-- Calls one after the other reach their world. -/
theorem reached_after (config : EngineConfig) (events : List SessionEvent) :
    Reached config (World.after config {} events) :=
  after_of_step (P := Reached config) (fun _ event h => h.event event) .start events

/-- Two mutations that do not collide, put to a service in any world that is reached, come to what
they come to one after the other, in one of the two orders, however their requests are
interleaved. -/
theorem serializable_of_reached (hw : Reached config w) (mutates : call.mutation?.isSome)
    (mutates' : call'.mutation?.isSome) (hfree : ¬ call.Collide call' w.definitions) :
    w.Serializable config call call' := by
  intro ends hraces
  obtain ⟨hholds, hproper⟩ := hw.holds
  obtain ⟨m, hm⟩ := Option.isSome_iff_exists.mp mutates
  obtain ⟨n, hn⟩ := Option.isSome_iff_exists.mp mutates'
  have hends := serializable_definitions hm hn hproper hfree
    (races_definitions hholds hm hn hraces).1
  rw [serial_definitions hholds hm hn, serial_definitions hholds hn hm] at hends
  exact hends

/-- A task of the runner of the greeting. -/
def chime : ServiceCall := .createTask ⟨"bob", "local"⟩
  { name := "chime", runner := "shell", command := "date", synchronous := false
    schema := none, secret := none }

/-- A runner of the same name. -/
def belfry : ServiceCall := .createRunner ⟨"alice", "local"⟩
  { name := "chime", image := "busybox", gitUrl := "https://example.org/chimes.git"
    branch := "", token := some "ghp" }

/-- A task and a runner that are created under one name do not collide. -/
theorem serializable_chime_belfry :
    (World.after .standard {} greeting).Serializable .standard chime belfry := by
  refine serializable_of_reached (reached_after .standard greeting) rfl rfl ?_
  rintro ⟨m, n, hm, hn, hcollide⟩
  cases hm
  cases hn
  rcases hcollide with h | h | ⟨-, hcreate, -⟩
  · cases h.before
  · cases h.before
  · exact hcreate ⟨rfl, rfl⟩

/-- The task of the greeting with another command. -/
def farewell : ServiceCall := .updateTask ⟨"alice", "local"⟩
  { name := "hello", runner := "shell", command := "echo goodbye", synchronous := false
    schema := none, secret := none }

/-- An edit of the schema of that task. -/
def describing : ServiceCall := .updateSchema ⟨"bob", "local"⟩ "hello" (.obj [])

/-- The command of the task of the greeting, as it is seen in the end. -/
def observedCommand (ends : (Outcome ServiceReply × Outcome ServiceReply) × Definitions) :
    Option String :=
  (ends.2.catalog.get? "hello").map (·.field "command")

/-- The schema is written into the task as it was before its update: both are acknowledged, and the
new command is gone, which stays in either order of the two. -/
theorem undone_farewell :
    let w := World.after .standard {} greeting
    let ends := Dialogue.race answer [false] (farewell.procedure .standard)
      (describing.procedure .standard) w
    (ends.1.1.isOk = true ∧ ends.1.2.isOk = true ∧
        observedCommand (observed ends) = some "echo hello") ∧
      observedCommand (observed (Dialogue.serial answer (farewell.procedure .standard)
        (describing.procedure .standard) w)) = some "echo goodbye" ∧
      observedCommand (observed (Dialogue.swapped (Dialogue.serial answer
        (describing.procedure .standard) (farewell.procedure .standard) w))) =
          some "echo goodbye" := by
  decide +kernel

/-- The runner of the greeting is there, and no task yet. -/
def installing : List SessionEvent := greeting.take 1

/-- The removal of that runner. -/
def uninstalling : ServiceCall := .deleteRunner ⟨"alice", "local"⟩ "shell"

/-- The runner is removed between the look for it and the write of the task: both are acknowledged,
the task stays without its runner, and in either order one of the two fails. -/
theorem orphaned_chime :
    let w := World.after .standard {} installing
    let ends := Dialogue.race answer [false] (uninstalling.procedure .standard)
      (chime.procedure .standard) w
    (ends.1.1.isOk = true ∧ ends.1.2.isOk = true ∧
        ends.2.catalog.records.contains "shell" = false ∧
        (ends.2.catalog.records.get? "chime").map (·.field "runner") = some "shell") ∧
      (Dialogue.serial answer (uninstalling.procedure .standard) (chime.procedure .standard)
        w).1.2.isOk = false ∧
      (Dialogue.serial answer (chime.procedure .standard) (uninstalling.procedure .standard)
        w).1.2.isOk = false := by
  decide +kernel

/-- An update of a task is undone by an edit of its schema, and a runner is removed while a task
that refers to it is created; no order of the two calls comes to that. -/
theorem not_serializable_farewell_chime :
    ¬ (World.after .standard {} greeting).Serializable .standard farewell describing ∧
      ¬ (World.after .standard {} installing).Serializable .standard uninstalling chime := by
  constructor
  · intro h
    obtain ⟨⟨-, -, hundone⟩, hkept, hkept'⟩ := undone_farewell
    rcases h _ (Dialogue.races_race answer [false] _ _ _) with hends | hends
    · rw [hends, hkept] at hundone
      exact absurd hundone (by decide)
    · rw [hends, hkept'] at hundone
      exact absurd hundone (by decide)
  · intro h
    obtain ⟨⟨hremoved, hcreated, -⟩, hrefused, hrefused'⟩ := orphaned_chime
    rcases h _ (Dialogue.races_race answer [false] _ _ _) with hends | hends
    · have hcreated' := congrArg (·.1.2.isOk) hends
      exact absurd (hcreated'.symm.trans hcreated) (by simp [observed, hrefused])
    · have hremoved' := congrArg (·.1.1.isOk) hends
      exact absurd (hremoved'.symm.trans hremoved) (by simp [observed, Dialogue.swapped, hrefused'])

end World

end TaskEngine
