import TaskEngine.Engine.Service
import TaskEngine.Memory.World
import TaskEngine.Proofs.Dict
import TaskEngine.Proofs.Outcome

/-!
# Running procedures in memory

A run is taken apart at its steps: every way to put procedures together has an equation, and so has
every request. The stores themselves never fail as long as only calls on the orchestrator are made
to; their answers are then functions of the stored records.
-/

namespace TaskEngine

/-- Dialogues one after the other may be grouped in any way. -/
theorem Dialogue.bind_assoc {Request : Type} {Reply : Request → Type} {α β γ : Type}
    (d : Dialogue Request Reply α) (f : α → Dialogue Request Reply β)
    (g : β → Dialogue Request Reply γ) : d >>= f >>= g = d >>= fun a => f a >>= g := by
  induction d with
  | done result => cases result <;> rfl
  | ask r next ih => exact congrArg (Dialogue.ask r) (funext ih)

/-- A sequence succeeds exactly if its first part does and the rest does from there. -/
theorem Dialogue.run_bind_eq_ok {Request : Type} {Reply : Request → Type} {α β σ : Type}
    {answer : (r : Request) → σ → Reply r × σ} {d : Dialogue Request Reply α}
    {next : α → Dialogue Request Reply β} {b : β} {s t : σ} :
    (d >>= next).run answer s = (.ok b, t) ↔
      ∃ a u, d.run answer s = (.ok a, u) ∧ (next a).run answer u = (.ok b, t) := by
  change (d.andThen next).run answer s = _ ↔ _
  rcases hfirst : d.run answer s with ⟨e | a, u⟩
  · rw [run_andThen_of_error hfirst]
    simp
  · rw [run_andThen_of_ok hfirst]
    simp

/-- Dialogues that leave their surroundings as they are do so one after the other. -/
theorem Dialogue.run_each {Request : Type} {Reply : Request → Type} {α β σ : Type}
    {answer : (r : Request) → σ → Reply r × σ} {act : α → Dialogue Request Reply β}
    {found : α → β} {s : σ} {as : List α}
    (h : ∀ a ∈ as, (act a).run answer s = (.ok (found a), s)) :
    (Dialogue.each act as).run answer s = (.ok (as.map found), s) := by
  induction as with
  | nil => rfl
  | cons a rest ih =>
    have hfirst := h a List.mem_cons_self
    have hrest := ih fun b hb => h b (List.mem_cons_of_mem a hb)
    exact (run_andThen_of_ok hfirst).trans (run_andThen_of_ok hrest)

namespace World

variable {α β : Type} (w : World)

/-! ## Composition -/

@[simp] theorem run_pure (a : α) : w.run (pure a) = (.ok a, w) := rfl

@[simp] theorem run_lift (result : Outcome α) : w.run (Dialogue.lift result) = (result, w) := rfl

@[simp] theorem run_fail (e : EngineError) :
    w.run (Dialogue.fail e : Procedure α) = (.error e, w) := rfl

/-- A run goes on with the result of its first part, unless that failed. -/
theorem run_bind (p : Procedure α) (next : α → Procedure β) :
    w.run (p >>= next) = match w.run p with
      | (.ok a, v) => v.run (next a)
      | (.error e, v) => (.error e, v) := by
  change Dialogue.run answer (p.followedBy _) w = _
  rw [Dialogue.run_followedBy]
  unfold run
  rcases Dialogue.run answer p w with ⟨_ | a, v⟩ <;> rfl

theorem run_bind_of_ok {w v : World} {p : Procedure α} {a : α} (h : w.run p = (.ok a, v))
    (next : α → Procedure β) : w.run (p >>= next) = v.run (next a) := by
  rw [run_bind, h]

theorem run_bind_of_error {w v : World} {p : Procedure α} {e : EngineError}
    (h : w.run p = (.error e, v)) (next : α → Procedure β) :
    w.run (p >>= next) = (.error e, v) := by
  rw [run_bind, h]

/-- A sequence succeeds exactly when its first part does and the rest does from there. -/
theorem run_bind_eq_ok {w v : World} {p : Procedure α} {next : α → Procedure β} {b : β} :
    w.run (p >>= next) = (.ok b, v) ↔
      ∃ a u, w.run p = (.ok a, u) ∧ u.run (next a) = (.ok b, v) :=
  Dialogue.run_bind_eq_ok

/-- Changing the result changes nothing else. -/
theorem run_map (f : α → β) (p : Procedure α) :
    w.run (f <$> p) = ((w.run p).1.map f, (w.run p).2) := by
  change w.run (p >>= fun a => pure (f a)) = _
  rw [run_bind]
  rcases w.run p with ⟨_ | a, v⟩ <;> rfl

/-- An attempt always succeeds with the outcome. -/
theorem run_attempt (p : Procedure α) :
    w.run (Dialogue.attempt p) = (.ok (w.run p).1, (w.run p).2) := by
  change Dialogue.run answer (p.followedBy Dialogue.succeed) w = _
  rw [Dialogue.run_followedBy]
  rfl

/-- Procedures that answer and leave everything as it is do so one after the other. -/
theorem run_each {w : World} {act : α → Procedure β} {found : α → β}
    (h : ∀ a, w.run (act a) = (.ok (found a), w)) (as : List α) :
    w.run (Dialogue.each act as) = (.ok (as.map found), w) :=
  Dialogue.run_each fun a _ => h a

/-- The audit entry of an operation with this outcome. -/
def entryOf (principal : Principal) (action : AuditAction) (category : ResourceKind)
    (target : String) (result : Outcome α) : AuditEntry where
  actor := principal.name
  provider := some principal.provider
  action := action
  category := category.name
  target := target
  status := if result.isOk then .success else .failure

/-- An audited operation leaves its entry behind and is otherwise as it was. -/
theorem run_audited (principal : Principal) (action : AuditAction) (category : ResourceKind)
    (target : String) (p : Procedure α) :
    w.run (Procedure.audited principal action category target p) =
      ((w.run p).1, { (w.run p).2 with audit :=
        (w.run p).2.audit ++ [entryOf principal action category target (w.run p).1] }) := by
  change Dialogue.run answer (p.followedBy _) w = _
  rw [Dialogue.run_followedBy]
  rfl

/-- An audited operation succeeds exactly when it does without the audit. -/
theorem eq_ok_of_run_audited {w : World} {principal : Principal} {action : AuditAction}
    {category : ResourceKind} {target : String} {p : Procedure α} {a : α}
    (h : (w.run (Procedure.audited principal action category target p)).1 = .ok a) :
    ∃ v audit, w.run p = (.ok a, v) ∧
      w.run (Procedure.audited principal action category target p) = (.ok a, { v with audit }) := by
  rw [run_audited] at h ⊢
  exact ⟨(w.run p).2, _, Prod.ext h rfl, Prod.ext h rfl⟩

/-! ## Requests -/

theorem run_catalog (call : CatalogCall) :
    w.run (Procedure.catalog call) = w.guarded call.name
      ((w.catalog.answerCatalog call).1,
        { w with catalog := (w.catalog.answerCatalog call).2 }) := rfl

theorem run_secrets (call : SecretCall) :
    w.run (Procedure.secrets call) = w.guarded call.name
      ((w.secrets.answerSecrets call).1,
        { w with secrets := (w.secrets.answerSecrets call).2 }) := rfl

theorem run_workloads (call : WorkloadCall) :
    w.run (Procedure.workloads call) = w.guarded call.name
      ((w.workloads.answer (Instant.ofMillis w.now) call).1,
        { w with workloads := (w.workloads.answer (Instant.ofMillis w.now) call).2 }) := rfl

@[simp] theorem run_sleepUntil (due : Nat) :
    w.run (Procedure.sleepUntil due) = (.ok (max w.now due), { w with now := max w.now due }) := rfl

/-- A call on the orchestrator that is not made to fail. -/
theorem run_workloads_of_not_mem {call : WorkloadCall} (h : call.name ∉ w.failing) :
    w.run (Procedure.workloads call) =
      ((w.workloads.answer (Instant.ofMillis w.now) call).1,
        { w with workloads := (w.workloads.answer (Instant.ofMillis w.now) call).2 }) := by
  rw [run_workloads, guarded, if_neg (by simpa using h)]

/-- A call on the orchestrator where none is made to fail. -/
theorem run_workloads_of_calm (h : w.failing = []) (call : WorkloadCall) :
    w.run (Procedure.workloads call) =
      ((w.workloads.answer (Instant.ofMillis w.now) call).1,
        { w with workloads := (w.workloads.answer (Instant.ofMillis w.now) call).2 }) :=
  w.run_workloads_of_not_mem (by simp [h])

/-- A call on the orchestrator that is made to fail. -/
theorem run_workloads_of_mem {call : WorkloadCall} (h : call.name ∈ w.failing) :
    w.run (Procedure.workloads call) = (.error (injected call.name), w) := by
  rw [run_workloads, guarded, if_pos (by simpa using h)]

end World

/-! ## Stores that never fail -/

/-- Only calls on the orchestrator are made to fail. -/
structure World.StoresHold (w : World) : Prop where
  /-- The catalog answers. -/
  catalog : ∀ call : CatalogCall, call.name ∉ w.failing
  /-- The secret store answers. -/
  secrets : ∀ call : SecretCall, call.name ∉ w.failing

/-- Where no call is made to fail, the stores hold. -/
theorem World.storesHold_of_calm {w : World} (h : w.failing = []) : w.StoresHold :=
  ⟨by simp [h], by simp [h]⟩

namespace RecordStore

/-- The store with a record under a name. -/
def written (s : RecordStore) (name : String) (record : Record) : RecordStore :=
  { records := s.records.insert name record, writes := s.writes + 1 }

/-- A write is refused by its mode or made. -/
theorem put_eq (s : RecordStore) (resource name : String) (record : Record) (mode : WriteMode) :
    s.put resource name record mode =
      (mode.demand resource name (s.records.contains name)).map fun _ => s.written name record := by
  rw [put]
  cases mode.demand resource name (s.records.contains name) <;> rfl

end RecordStore

namespace World

variable {w : World}

theorem run_catalog_get (h : w.StoresHold) (name : String) :
    w.run (Procedure.catalog (.get name)) = (.ok (w.catalog.records.get? name), w) := by
  rw [run_catalog, guarded, if_neg (by simpa using h.catalog (.get name))]
  rfl

theorem run_catalog_list (h : w.StoresHold) :
    w.run (Procedure.catalog .list) = (.ok w.catalog.records.toList, w) := by
  rw [run_catalog, guarded, if_neg (by simpa using h.catalog .list)]
  rfl

theorem run_catalog_put (h : w.StoresHold) (name : String) (record : Record) (mode : WriteMode) :
    w.run (Procedure.catalog (.put name record mode)) =
      match mode.demand CatalogCall.resource name (w.catalog.records.contains name) with
      | .ok () => (.ok record, { w with catalog := w.catalog.written name record })
      | .error e => (.error e, w) := by
  rw [run_catalog, guarded, if_neg (by simpa using h.catalog (.put name record mode))]
  simp only [RecordStore.answerCatalog, RecordStore.put_eq]
  cases mode.demand CatalogCall.resource name (w.catalog.records.contains name) <;> rfl

theorem run_catalog_delete (h : w.StoresHold) {name : String} {record : Record}
    (hget : w.catalog.records.get? name = some record) :
    w.run (Procedure.catalog (.delete name)) =
      (.ok (),
        { w with catalog := { w.catalog with records := w.catalog.records.erase name } }) := by
  have hcontains : w.catalog.records.contains name = true := Dict.contains_iff.mpr ⟨record, hget⟩
  rw [run_catalog, guarded, if_neg (by simpa using h.catalog (.delete name))]
  simp only [RecordStore.answerCatalog, hcontains, if_true]

theorem run_secrets_get (h : w.StoresHold) (name : String) :
    w.run (Procedure.secrets (.get name)) = (.ok (w.secrets.records.get? name), w) := by
  rw [run_secrets, guarded, if_neg (by simpa using h.secrets (.get name))]
  rfl

theorem run_secrets_put (h : w.StoresHold) (name : String) (secret : Record) (mode : WriteMode) :
    w.run (Procedure.secrets (.put name secret mode)) =
      match mode.demand SecretCall.resource name (w.secrets.records.contains name) with
      | .ok () => (.ok (), { w with secrets := w.secrets.written name secret })
      | .error e => (.error e, w) := by
  rw [run_secrets, guarded, if_neg (by simpa using h.secrets (.put name secret mode))]
  simp only [RecordStore.answerSecrets, RecordStore.put_eq]
  cases mode.demand SecretCall.resource name (w.secrets.records.contains name) <;> rfl

end World

end TaskEngine
