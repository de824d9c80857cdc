import TaskEngine.Proofs.Engine.Writes
import TaskEngine.Proofs.Engine.Origins

/-!
# What the audit trail tells

A mutation leaves one entry whatever becomes of it, and nothing else leaves any. So the trail of a
session can be told from its calls, the results that were returned, and, where the secret of an
unnamed owner is changed, the kind of that owner at the time.
-/

namespace TaskEngine

open Engine

/-! ## Deeds -/

/-- What a mutation puts on record about itself. -/
structure Deed where
  /-- Who acts. -/
  principal : Principal
  /-- What is done. -/
  action : AuditAction
  /-- The kind of object that it is done to. -/
  category : ResourceKind
  /-- The object that it is addressed to. -/
  target : String

/-- The entry about a deed that succeeded or not. -/
def Deed.entry (d : Deed) (ok : Bool) : AuditEntry where
  actor := d.principal.name
  provider := some d.principal.provider
  action := d.action
  category := d.category.name
  target := d.target
  status := if ok then .success else .failure

/-! ## Procedures that leave no entry -/

namespace World

variable {α β : Type} {w : World}

/-- Whether a procedure puts a deed on record, with the result that it returns, and nothing else. -/
def Records (w : World) (d : Deed) (p : Procedure α) : Prop :=
  (w.run p).2.audit = w.audit ++ [d.entry (w.run p).1.isOk]

theorem Records.map {d : Deed} {p : Procedure α} (h : w.Records d p) (f : α → β) :
    w.Records d (f <$> p) := by
  rw [Records] at h ⊢
  rw [run_map, h]
  cases (w.run p).1 <;> rfl

end World

namespace Engine

end Engine

/-! ## What calls put on record -/

namespace World

/-- What the owner of a secret counts as: a runner if the catalog says so, and a task otherwise, even
if nothing has the name or the catalog does not answer. -/
def ownerCategory (w : World) (name : String) : ResourceKind :=
  if w.failing.contains (CatalogCall.get name).name then .tasks
  else if (w.catalog.records.get? name).any Runner.isRecord then .runners
  else .tasks

end World

/-- What a call puts on record: a mutation itself, and anything else nothing. -/
def ServiceCall.deed? (w : World) : ServiceCall → Option Deed
  | .createRunner principal r => some ⟨principal, .create, .runners, r.name⟩
  | .updateRunner principal r => some ⟨principal, .update, .runners, r.name⟩
  | .deleteRunner principal name => some ⟨principal, .delete, .runners, name⟩
  | .createTask principal t => some ⟨principal, .create, .tasks, t.name⟩
  | .updateTask principal t => some ⟨principal, .update, .tasks, t.name⟩
  | .deleteTask principal name => some ⟨principal, .delete, .tasks, name⟩
  | .updateSchema principal taskName _ => some ⟨principal, .update, .tasks, taskName⟩
  | .deleteSchema principal taskName => some ⟨principal, .update, .tasks, taskName⟩
  | .updateSecret principal name _ =>
    some ⟨principal, .update, w.ownerCategory name, name ++ "/secret"⟩
  | .deleteSecret principal name =>
    some ⟨principal, .delete, w.ownerCategory name, name ++ "/secret"⟩
  | .createJob principal taskName _ => some ⟨principal, .launch, .jobs, taskName⟩
  | .deleteJob principal id => some ⟨principal, .delete, .jobs, id⟩
  | .createCronJob principal c => some ⟨principal, .create, .cronJobs, c.name⟩
  | .updateCronJob principal c => some ⟨principal, .update, .cronJobs, c.name⟩
  | .deleteCronJob principal name => some ⟨principal, .delete, .cronJobs, name⟩
  | .createDeployment principal d => some ⟨principal, .create, .deployments, d.name⟩
  | .updateDeployment principal d => some ⟨principal, .update, .deployments, d.name⟩
  | .deleteDeployment principal name => some ⟨principal, .delete, .deployments, name⟩
  | .listRunners _ | .getRunner _ | .listTasks _ | .getTask _ | .getSchema _ | .getSecret _
  | .listJobs _ | .getJob .. | .getJobLog .. | .getJobData .. | .listCronJobs _ | .getCronJob _
  | .listDeployments _ | .getDeployment _ => none

namespace World

variable {w : World}

end World

/-! ## Sessions -/

/-- What an event puts on record, if it is a call that has been answered. -/
def SessionEvent.entry? (w : World) :
    SessionEvent → Option (Outcome ServiceReply) → Option AuditEntry
  | .call made, some reply => (made.deed? w).map (·.entry reply.isOk)
  | _, _ => none

namespace World

/-- The entries that a session is to leave: one for each of its mutations, in order. -/
def trail (config : EngineConfig) : World → List SessionEvent → List AuditEntry
  | _, [] => []
  | w, event :: events =>
    (event.entry? w (w.step config event).1).toList ++ trail config (w.step config event).2 events

end World

end TaskEngine
