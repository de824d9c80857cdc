import TaskEngine.Audit
import TaskEngine.Dialogue
import TaskEngine.Engine.Call
import TaskEngine.Engine.Metric

/-!
# Procedures of the engine

A procedure calls the stores and the orchestrator, leaves audit entries and metrics, and reads and
awaits the clock. Time is counted in milliseconds.
-/

namespace TaskEngine

/-- What a procedure asks of its surroundings. -/
inductive Request where
  /-- Call the catalog. -/
  | catalog (call : CatalogCall)
  /-- Call the secret store. -/
  | secrets (call : SecretCall)
  /-- Call the orchestrator. -/
  | workloads (call : WorkloadCall)
  /-- Leave an audit entry. -/
  | record (entry : AuditEntry)
  /-- Count an event. -/
  | count (metric : Metric)
  /-- Read the clock. -/
  | clock
  /-- Wait until the clock shows a time; the time of waking up is the answer. -/
  | sleepUntil (due : Nat)

namespace Request

/-- The answer to a request. -/
abbrev Reply : Request → Type
  | .catalog call => Outcome call.Reply
  | .secrets call => Outcome call.Reply
  | .workloads call => Outcome call.Reply
  | .record _ | .count _ => Unit
  | .clock | .sleepUntil _ => Nat

end Request

/-- A procedure of the engine. -/
abbrev Procedure := Dialogue Request Request.Reply

namespace Procedure

/-- Call the catalog. -/
def catalog (call : CatalogCall) : Procedure call.Reply :=
  .ask (.catalog call) fun reply => .done reply

/-- Call the secret store. -/
def secrets (call : SecretCall) : Procedure call.Reply :=
  .ask (.secrets call) fun reply => .done reply

/-- Call the orchestrator. -/
def workloads (call : WorkloadCall) : Procedure call.Reply :=
  .ask (.workloads call) fun reply => .done reply

/-- Leave an audit entry. -/
def record (entry : AuditEntry) : Procedure Unit := Dialogue.request (Request.record entry)

/-- Count an event. -/
def count (metric : Metric) : Procedure Unit := Dialogue.request (Request.count metric)

/-- The time on the clock. -/
def clock : Procedure Nat := Dialogue.request Request.clock

/-- Wait until the clock shows a time; the result is the time of waking up. -/
def sleepUntil (due : Nat) : Procedure Nat := Dialogue.request (Request.sleepUntil due)

/-- Leave an audit entry about a procedure once it is over, whether it succeeded or not. -/
def audited {α : Type} (principal : Principal) (action : AuditAction) (category : ResourceKind)
    (target : String) (procedure : Procedure α) : Procedure α :=
  procedure.followedBy fun result => do
    record {
      actor := principal.name, provider := some principal.provider, action
      category := category.name, target
      status := if result.isOk then .success else .failure }
    Dialogue.lift result

end Procedure

end TaskEngine
