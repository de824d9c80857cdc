import TaskEngine.Memory.Session
import TaskEngine.Proofs.Engine.Steps
import TaskEngine.Proofs.Secrecy.Calls

/-!
# Sessions in two runs

Two sessions that differ in submitted secret values only, started in worlds that differ in stored
secret values and tokens only, stay together: every call is answered the same, the same audit
entries and the same records are left behind, and the worlds differ as before. So no value of a
secret can be learned from the service.
-/

namespace TaskEngine

/-- Events that are the same but for the secret values in calls. -/
inductive SessionEvent.Alike : SessionEvent → SessionEvent → Prop
  | same (event : SessionEvent) : Alike event event
  | call {call other : ServiceCall} (h : call.Alike other) : Alike (.call call) (.call other)

namespace World

variable {w v : World}

/-- What two runs have in common after an event. -/
structure StepAlike (a b : Option (Outcome ServiceReply) × World) : Prop where
  reply : b.1 = a.1
  audit : b.2.audit = a.2.audit
  catalog : b.2.catalog = a.2.catalog
  worlds : a.2.Alike b.2

/-- Alike worlds that gave the same reply have their audit entries and records in common. -/
theorem StepAlike.of_worlds {reply other : Option (Outcome ServiceReply)} (hreply : other = reply)
    (h : w.Alike v) : StepAlike (reply, w) (other, v) :=
  ⟨hreply, congrArg (·.audit) h.rest, h.catalog, h⟩

/-- Calls that are alike are answered the same and keep alike worlds alike. -/
theorem step_alike_of_calls (h : w.Alike v) (config : EngineConfig) {call other : ServiceCall}
    (hcalls : call.Alike other) :
    StepAlike (w.step config (.call call)) (v.step config (.call other)) := by
  obtain ⟨hreplies, hworlds⟩ := (Procedure.alike_of_calls config hcalls).run w v h
  exact .of_worlds (congrArg some hreplies.eq) hworlds

/-- Events that are alike keep alike worlds alike. -/
theorem step_alike (h : w.Alike v) (config : EngineConfig) {event other : SessionEvent}
    (hevents : event.Alike other) : StepAlike (w.step config event) (v.step config other) := by
  cases hevents with
  | call hcalls => exact step_alike_of_calls h config hcalls
  | same =>
    have hholds := storesHold_step h.holds config event
    cases event with
    | call call => exact step_alike_of_calls h config (.same call)
    | elapse millis => exact .of_worlds rfl ⟨hholds, h.secrets, h.workloads, by rw [h.rest]⟩
    | script script =>
      refine .of_worlds rfl ⟨hholds, h.secrets, ?_, by rw [h.rest]⟩
      exact { h.workloads with rest := by rw [h.workloads.rest] }
    | fail call => exact .of_worlds rfl ⟨hholds, h.secrets, h.workloads, by rw [h.rest]⟩
    | suffixes jobSuffix podSuffix =>
      refine .of_worlds rfl ⟨hholds, h.secrets, ?_, by rw [h.rest]⟩
      exact { h.workloads with rest := by rw [h.workloads.rest] }

/-- Two sessions that differ in secret values only stay together. -/
theorem trace_alike (config : EngineConfig) (h : w.Alike v) {events others : List SessionEvent}
    (hevents : List.Forall₂ SessionEvent.Alike events others) :
    List.Forall₂ StepAlike (trace config w events) (trace config v others) := by
  induction hevents generalizing w v with
  | nil => exact .nil
  | cons hhead _ ih =>
    have hstep := step_alike h config hhead
    exact .cons hstep (ih hstep.worlds)

/-- A session in which a job clones its task with a token. -/
def cloning (token : String) : List SessionEvent :=
  [.call (.createRunner ⟨"alice", "local"⟩
    { name := "shell", image := "busybox", gitUrl := "https://example.org/greetings.git"
      branch := "", token }),
    .call (.createTask ⟨"alice", "local"⟩
      { name := "hello", runner := "shell", command := "echo hello", synchronous := false
        schema := none, secret := none }),
    .call (.createJob ⟨"alice", "local"⟩ "hello" none)]

/-- The token of a job is stored, and nobody can tell one from another. -/
theorem trace_alike_cloning :
    (World.after .standard {} (cloning "swordfish")).secrets.records.get? "shell" =
        some (Dict.ofList [("token", "swordfish")]) ∧
      List.Forall₂ StepAlike (trace .standard {} (cloning "swordfish"))
        (trace .standard {} (cloning "sesame")) := by
  refine ⟨by decide +kernel, trace_alike .standard ?_ ?_⟩
  · exact ⟨⟨fun _ => List.not_mem_nil, fun _ => List.not_mem_nil⟩, .nil,
      ⟨.nil, .nil, .nil, .nil, rfl⟩, rfl⟩
  · refine .cons (.call (.createRunner _ _ (.some (.inr ?_)))) ?_
    · decide
    · exact .cons (.same _) (.cons (.same _) .nil)

end World

end TaskEngine
