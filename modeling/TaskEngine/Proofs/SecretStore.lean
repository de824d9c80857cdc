import TaskEngine.Proofs.Engine.Edits
import TaskEngine.Proofs.Integrity
import TaskEngine.Proofs.ReadWrite

/-!
# What the secret store holds

Over stores that answer, a stored secret belongs to a definition, has keys, and holds neither an
empty value nor a stand-in. So the two readers of the token of a runner agree: the one that shows it
asks whether there is one, the one that launches with it asks whether it is filled in.
-/

namespace TaskEngine

open Engine

/-! ## Values of a store -/

namespace RecordStore

variable {s : RecordStore} {name : String}

/-- The value under a key of the secret under a name. -/
def value? (s : RecordStore) (name key : String) : Option String :=
  (s.records.get? name).bind (·.get? key)

/-- An update of a secret merges each of its values, whether or not it ends up without keys. -/
theorem value?_mergeSecret (desired : Record) (key : String) :
    (s.mergeSecret name desired).value? name key =
      Secret.mergedValue (s.value? name key) (desired.get? key) := by
  have hmerged : (s.mergedSecret name desired).get? key =
      Secret.mergedValue (s.value? name key) (desired.get? key) := by
    rw [mergedSecret, Secret.get?_merge, value?]
    cases s.records.get? name <;> rfl
  rw [value?, records_mergeSecret, ← hmerged]
  split
  · rename_i hempty
    rw [Dict.isEmpty_iff.mp hempty]
    split
    · rename_i hstored
      rw [hstored, Option.bind_some]
    · simp
  · simp

end RecordStore

/-! ## The invariant -/

/-- Stored secrets belong to records and hold values that were given. -/
structure SecretsOwned (catalog secrets : RecordStore) : Prop where
  /-- A secret belongs to a name that has a record. -/
  owner : ∀ name secret, secrets.records.get? name = some secret →
    catalog.records.contains name = true
  /-- A secret has keys. -/
  keys : ∀ name secret, secrets.records.get? name = some secret → secret ≠ ∅
  /-- No value is empty or a stand-in. -/
  values : ∀ name secret key value, secrets.records.get? name = some secret →
    secret.get? key = some value → value ≠ "" ∧ value ≠ Secret.standIn

namespace SecretsOwned

variable {catalog secrets : RecordStore} {name : String}

theorem empty : SecretsOwned {} {} := by
  constructor <;> intro name secret <;> simp

/-- A record that is written takes no owner away. -/
theorem write (h : SecretsOwned catalog secrets) (name : String) (record : Record) :
    SecretsOwned (catalog.written name record) secrets where
  owner other secret hget := by
    obtain ⟨stored, hstored⟩ := Dict.contains_iff.mp (h.owner other secret hget)
    refine Dict.contains_iff.mpr ?_
    simp only [RecordStore.written, Dict.get?_insert]
    split
    · exact ⟨record, rfl⟩
    · exact ⟨stored, hstored⟩
  keys := h.keys
  values := h.values

/-- An update keeps to an owner that is there. -/
theorem merge (h : SecretsOwned catalog secrets) (howner : catalog.records.contains name = true)
    (desired : Record) : SecretsOwned catalog (secrets.mergeSecret name desired) := by
  have hkeys : secrets.records.get? name ≠ some ∅ := fun hempty => h.keys name ∅ hempty rfl
  have hmerged : ∀ secret, (secrets.mergeSecret name desired).records.get? name = some secret →
      secret = secrets.mergedSecret name desired ∧ secret ≠ ∅ := by
    intro secret hget
    rw [RecordStore.get?_mergeSecret hkeys, Secret.kept] at hget
    split at hget
    · cases hget
    · rename_i hfilled
      cases hget
      exact ⟨rfl, fun hempty => hfilled (Dict.isEmpty_iff.mpr hempty)⟩
  constructor
  · intro other secret hget
    by_cases hother : other = name
    · exact hother ▸ howner
    · exact h.owner other secret (by rwa [RecordStore.get?_mergeSecret_of_ne hother] at hget)
  · intro other secret hget
    by_cases hother : other = name
    · exact (hmerged secret (hother ▸ hget)).2
    · exact h.keys other secret (by rwa [RecordStore.get?_mergeSecret_of_ne hother] at hget)
  · intro other secret key value hget hvalue
    by_cases hother : other = name
    · subst hother
      obtain ⟨rfl, -⟩ := hmerged secret hget
      rw [RecordStore.mergedSecret, Secret.get?_merge] at hvalue
      refine (Secret.mergedValue_eq_some hvalue).elim (fun hcurrent => ?_) id
      cases hstored : secrets.records.get? other with
      | none => simp [hstored] at hcurrent
      | some stored =>
        rw [hstored, Option.getD_some] at hcurrent
        exact h.values other stored key value hstored hcurrent
    · rw [RecordStore.get?_mergeSecret_of_ne hother] at hget
      exact h.values other secret key value hget hvalue

/-- What is left of the secrets is what was there. -/
theorem shrink (h : SecretsOwned catalog secrets) {fewer : RecordStore}
    (hfewer : ∀ name secret, fewer.records.get? name = some secret →
      secrets.records.get? name = some secret) : SecretsOwned catalog fewer where
  owner name secret hget := h.owner name secret (hfewer name secret hget)
  keys name secret hget := h.keys name secret (hfewer name secret hget)
  values name secret key value hget := h.values name secret key value (hfewer name secret hget)

/-- A removed secret was there, and the others stay. -/
theorem get?_of_removeSecret {other : String} {secret : Record}
    (hget : (secrets.removeSecret name).records.get? other = some secret) :
    other ≠ name ∧ secrets.records.get? other = some secret := by
  by_cases hother : other = name
  · subst hother
    rw [RecordStore.get?_removeSecret] at hget
    cases hget
  · rw [RecordStore.get?_removeSecret_of_ne hother] at hget
    exact ⟨hother, hget⟩

theorem remove (h : SecretsOwned catalog secrets) (name : String) :
    SecretsOwned catalog (secrets.removeSecret name) :=
  h.shrink fun _ _ hget => (get?_of_removeSecret hget).2

/-- A record goes together with its secret. -/
theorem removal (h : SecretsOwned catalog secrets) (name : String) :
    SecretsOwned { catalog with records := catalog.records.erase name }
      (secrets.removeSecret name) where
  owner other secret hget := by
    obtain ⟨hother, hstored⟩ := get?_of_removeSecret hget
    obtain ⟨record, hrecord⟩ := Dict.contains_iff.mp (h.owner other secret hstored)
    exact Dict.contains_iff.mpr ⟨record, by simp [hother.symm, hrecord]⟩
  keys := (h.remove name).keys
  values := (h.remove name).values

/-- The name of a record that was just written is taken. -/
theorem contains_written (record : Record) :
    (catalog.written name record).records.contains name = true :=
  Dict.contains_iff.mpr ⟨record, by simp [RecordStore.written]⟩

theorem withRunner (h : SecretsOwned catalog secrets) (r : Runner) :
    SecretsOwned (catalog.written r.name r.toRecord) (secrets.withRunner r) := by
  rw [RecordStore.withRunner]
  split
  · exact (h.write r.name r.toRecord).merge (contains_written r.toRecord) _
  · exact h.write r.name r.toRecord

theorem withTask (h : SecretsOwned catalog secrets) (t : Task) (mode : WriteMode) :
    SecretsOwned (catalog.written t.name t.toRecord) (secrets.withTask t mode) := by
  unfold RecordStore.withTask
  split
  · exact (h.write t.name t.toRecord).merge (contains_written t.toRecord) _
  · exact (h.write t.name t.toRecord).remove t.name
  · exact h.write t.name t.toRecord

/-- Over stores that answer, a call keeps the secrets in order. -/
theorem edited {s : Stores} (h : SecretsOwned s.catalog s.secrets) {call : ServiceCall} {ok : Bool}
    (hedited : s.Edited False call ok catalog secrets) : SecretsOwned catalog secrets := by
  cases hedited with
  | kept idle => exact h
  | runner called valid admitted rest =>
    obtain rfl := rest.resolve_right fun hfailed => hfailed.1
    exact h.withRunner _
  | task called valid admitted rest =>
    obtain rfl := rest.resolve_right fun hfailed => hfailed.1
    exact h.withTask _ _
  | schema schema called held isTask => exact h.write _ _
  | removal called held rest =>
    obtain rfl := rest.resolve_right fun hfailed => hfailed.1
    exact h.removal _
  | secret called held rest =>
    rcases rest with ⟨desired, rfl⟩ | rfl
    · refine h.merge ?_ desired
      rcases held with ⟨record, hget, -⟩ | ⟨record, hget, -⟩ <;>
        exact Dict.contains_iff.mpr ⟨record, hget⟩
    · exact h.remove _

end SecretsOwned

namespace World

variable {w : World}

/-- Whatever happens keeps the secrets in order. -/
theorem secretsOwned_step (hholds : w.StoresHold) (h : SecretsOwned w.catalog w.secrets)
    (config : EngineConfig) (event : SessionEvent) :
    SecretsOwned (w.step config event).2.catalog (w.step config event).2.secrets := by
  cases event with
  | call call => exact h.edited (edits_call config call _ _ (runs_run hholds _))
  | _ => exact h

theorem secretsOwned_after (config : EngineConfig) (events : List SessionEvent) :
    SecretsOwned (World.after config {} events).catalog (World.after config {} events).secrets :=
  (after_of_step (P := fun w => w.StoresHold ∧ SecretsOwned w.catalog w.secrets)
    (fun _ event h => ⟨storesHold_step h.1 config event, secretsOwned_step h.1 h.2 config event⟩)
    ⟨storesHold_after config [], .empty⟩ events).2

/-! ## The token of a runner -/

/-- A runner is shown with a stand-in exactly if there is a token. -/
theorem token_shownRunner {r : Runner} (htoken : r.token = none) :
    (w.shownRunner r).token =
      (w.secrets.value? r.name Runner.tokenKey).map fun _ => Secret.standIn := by
  rw [shownRunner, RecordStore.value?]
  cases w.secrets.records.get? r.name with
  | none => exact htoken
  | some secret =>
    simp only [Option.any_some, Option.bind_some, Dict.contains]
    rcases Option.eq_none_or_eq_some (secret.get? Runner.tokenKey) with htoken' | ⟨token, htoken'⟩
    · simp [htoken', htoken]
    · simp [htoken']

/-- A launch on a runner is prepared with the token that is stored. -/
theorem token_of_prepared (h : SecretsOwned w.catalog w.secrets) {taskName : String}
    {vars : Option String} {ready : Preparation} (hready : w.prepared taskName vars = .ok ready) :
    ready.token = w.secrets.value? ready.task.runner Runner.tokenKey := by
  obtain ⟨task, htask, hrest⟩ := Outcome.bind_eq_ok.mp hready
  obtain ⟨runner, hrunner, hrest⟩ := Outcome.bind_eq_ok.mp hrest
  obtain ⟨u, -, hready⟩ := Outcome.bind_eq_ok.mp hrest
  cases hready
  obtain ⟨record, -, -, rfl⟩ := runnerNamed_eq_ok hrunner
  change (w.secrets.records.get? task.runner).bind (Record.filled? · Runner.tokenKey) = _
  rw [RecordStore.value?]
  cases hstored : w.secrets.records.get? task.runner with
  | none => rfl
  | some secret =>
    simp only [Option.bind_some]
    cases htoken : secret.get? Runner.tokenKey with
    | none => rw [Record.filled?, htoken]
    | some token =>
      have hfilled := (h.values task.runner secret Runner.tokenKey token hstored htoken).1
      exact Record.filled?_eq_some_iff.mpr ⟨htoken, hfilled⟩

/-- All along a session, stored secrets belong to records and hold values that were given. So a
runner is shown with a stand-in for its token exactly if launches on it are given one. -/
theorem secrets_owned (config : EngineConfig) (events : List SessionEvent) {w : World}
    (hw : w = World.after config {} events) :
    SecretsOwned w.catalog w.secrets ∧
      ∀ runnerName, w.stores.HoldsRunner runnerName →
        ∃ shown, (w.run (getRunner runnerName)).1 = .ok shown ∧
          (shown.token = none ∨ shown.token = some Secret.standIn) ∧
          ∀ taskName vars ready, (w.run (prepare taskName vars)).1 = .ok ready →
            ready.task.runner = runnerName → ∀ owner,
            (shown.token = some Secret.standIn ↔ (ready.workload owner).token.isSome = true) := by
  subst hw
  have howned := secretsOwned_after config events
  have hholds := storesHold_after config events
  refine ⟨howned, fun runnerName hheld => ?_⟩
  obtain ⟨r, hload⟩ := runnerNamed_of_holds hheld
  obtain ⟨record, -, -, rfl⟩ := runnerNamed_eq_ok hload
  have hshown : ((World.after config {} events).shownRunner
        (Runner.ofRecord runnerName record)).token =
      ((World.after config {} events).secrets.value? runnerName Runner.tokenKey).map
        fun _ => Secret.standIn :=
    token_shownRunner rfl
  refine ⟨_, by rw [run_getRunner hholds, hload]; rfl, ?_, ?_⟩
  · rw [hshown]
    cases (World.after config {} events).secrets.value? runnerName Runner.tokenKey with
    | none => exact .inl rfl
    | some token => exact .inr rfl
  · intro taskName vars ready hready hrunner owner
    obtain ⟨metrics, hprepare⟩ := run_prepare hholds taskName vars
    rw [hprepare] at hready
    have htoken := token_of_prepared howned hready
    rw [hrunner] at htoken
    change _ ↔ ready.token.isSome = true
    rw [hshown, htoken]
    cases (World.after config {} events).secrets.value? runnerName Runner.tokenKey <;> simp

/-- The token of the furnished runner is shown as a stand-in and given to the launches of its
task. -/
theorem secrets_owned_furnished :
    SecretsOwned (World.after .standard {} furnished).catalog
        (World.after .standard {} furnished).secrets ∧
      ∃ shown ready,
        ((World.after .standard {} furnished).run (getRunner "shell")).1 = .ok shown ∧
        ((World.after .standard {} furnished).run (prepare "hello" (some "\x7b\x7d"))).1 =
          .ok ready ∧
        ready.token = some "ghp" ∧
        (shown.token = some Secret.standIn ↔ (ready.workload "alice").token.isSome = true) := by
  have hall := secrets_owned .standard furnished rfl
  obtain ⟨r, hload⟩ := Outcome.isOk_iff.mp
    (show ((World.after .standard {} furnished).runnerNamed "shell").isOk = true by decide +kernel)
  obtain ⟨shown, hshown, -, hagree⟩ := hall.2 "shell" (holdsRunner_of_runnerNamed hload)
  obtain ⟨ready, hready⟩ := Outcome.isOk_iff.mp
    (show ((World.after .standard {} furnished).run
      (prepare "hello" (some "\x7b\x7d"))).1.isOk = true by decide +kernel)
  have hfields : (((World.after .standard {} furnished).run
      (prepare "hello" (some "\x7b\x7d"))).1.map fun ready => (ready.task.runner, ready.token)) =
        .ok ("shell", some "ghp") := by decide +kernel
  rw [hready, Outcome.map_ok] at hfields
  obtain ⟨hrunner, htoken⟩ := Prod.mk.inj (Except.ok.inj hfields)
  exact ⟨hall.1, shown, ready, hshown, hready, htoken,
    hagree "hello" (some "\x7b\x7d") ready hready hrunner "alice"⟩

end World

end TaskEngine
