import TaskEngine.Engine.Procedure
import TaskEngine.Memory.Simulator

/-!
# Surroundings in memory

Both stores and the orchestrator in memory, with a clock that jumps to whatever is awaited, an audit
trail and a list of counted events. Single calls can be made to fail; such a call has no effect.
-/

namespace TaskEngine

/-- Everything that a procedure of the engine can reach. -/
structure World where
  catalog : RecordStore := {}
  secrets : RecordStore := {}
  workloads : Simulator := {}
  /-- The names of the calls that fail. -/
  failing : List String := []
  /-- The time on the clock in milliseconds. -/
  now : Nat := 0
  /-- The audit entries, in order. -/
  audit : List AuditEntry := []
  /-- The counted events, in order. -/
  metrics : List Metric := []

namespace World

/-- The error of a call that is made to fail. -/
def injected (call : String) : EngineError := .infrastructure ("injected failure: " ++ call) false

/-- Answer a call under a name, unless it is made to fail. -/
def guarded {α : Type} (w : World) (call : String) (answer : Outcome α × World) :
    Outcome α × World :=
  if w.failing.contains call then (.error (injected call), w) else answer

/-- Answer a request. -/
def answer : (r : Request) → World → r.Reply × World
  | .catalog call, w =>
    let (reply, catalog) := w.catalog.answerCatalog call
    w.guarded call.name (reply, { w with catalog })
  | .secrets call, w =>
    let (reply, secrets) := w.secrets.answerSecrets call
    w.guarded call.name (reply, { w with secrets })
  | .workloads call, w =>
    let (reply, workloads) := w.workloads.answer (Instant.ofMillis w.now) call
    w.guarded call.name (reply, { w with workloads })
  | .record entry, w => ((), { w with audit := w.audit ++ [entry] })
  | .count metric, w => ((), { w with metrics := w.metrics ++ [metric] })
  | .clock, w => (w.now, w)
  | .sleepUntil due, w => (max w.now due, { w with now := max w.now due })

/-- Run a procedure. -/
def run {α : Type} (w : World) (procedure : Procedure α) : Outcome α × World :=
  Dialogue.run answer procedure w

end World

end TaskEngine
