import TaskEngine.Engine.Service
import TaskEngine.Memory.World

/-!
# Sessions

A session is a history of the service over surroundings in memory, from empty stores on. Between the
calls time passes, jobs get other scripts, calls on the orchestrator begin to fail, and names are
completed in another way; none of this touches a stored object.
-/

namespace TaskEngine

/-- What happens in a session. -/
inductive SessionEvent where
  /-- The service is called. -/
  | call (call : ServiceCall)
  /-- Time passes. -/
  | elapse (millis : Nat)
  /-- Jobs that are made from now on follow this script. -/
  | script (script : Script)
  /-- From now on calls of this name on the orchestrator fail. -/
  | fail (call : WorkloadCall)
  /-- The names of jobs and pods that are made from now on are completed in this way. -/
  | suffixes (job pod : Nat → NameSuffix)

namespace World

/-- One event: the reply, if it is a call, and the world after it. -/
def step (config : EngineConfig) (w : World) : SessionEvent → Option (Outcome ServiceReply) × World
  | .call call =>
    let (reply, w) := w.run (call.procedure config)
    (some reply, w)
  | .elapse millis => (none, { w with now := w.now + millis })
  | .script script => (none, { w with workloads := { w.workloads with script } })
  | .fail call => (none, { w with failing := w.failing ++ [call.name] })
  | .suffixes jobSuffix podSuffix =>
    (none, { w with workloads := { w.workloads with jobSuffix, podSuffix } })

/-- The world after a list of events. -/
def after (config : EngineConfig) (w : World) (events : List SessionEvent) : World :=
  events.foldl (fun w event => (w.step config event).2) w

/-- The replies to a list of events, each with the world after it. -/
def trace (config : EngineConfig) :
    World → List SessionEvent → List (Option (Outcome ServiceReply) × World)
  | _, [] => []
  | w, event :: events =>
    w.step config event :: trace config (w.step config event).2 events

/-- What holds of a world and is kept by every event holds after any list of events. -/
theorem after_of_step {config : EngineConfig} {P : World → Prop}
    (hstep : ∀ w event, P w → P (w.step config event).2) {w : World} (hw : P w)
    (events : List SessionEvent) : P (w.after config events) := by
  induction events generalizing w with
  | nil => exact hw
  | cons event events ih => exact ih (hstep w event hw)

end World

end TaskEngine
