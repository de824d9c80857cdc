import TaskEngine.Proofs.Engine.Writes
import TaskEngine.Proofs.Secrecy.Simulator

/-!
# Two runs at once

Two worlds are alike if their secrets have the same keys, their orchestrators are alike up to
tokens, and everything else in them is the same. Two procedures are alike if, run on alike worlds,
they end with related results in alike worlds. There is a rule for every way to put procedures
together and for every request, so two runs are followed step by step like one.
-/

namespace TaskEngine

open Engine

/-- Records with the same keys, whatever their values. -/
def Record.SameKeys (a b : Record) : Prop := Dict.Alike (fun _ _ => True) a b

/-- Worlds that are the same but for the values of secrets and for tokens. -/
structure World.Alike (w v : World) : Prop where
  /-- Only calls on the orchestrator are made to fail. -/
  holds : w.StoresHold
  secrets : Dict.Alike Record.SameKeys w.secrets.records v.secrets.records
  workloads : w.workloads.Alike v.workloads
  rest : v = { w with secrets := v.secrets, workloads := v.workloads }

namespace World

variable {w v : World}

theorem Alike.catalog (h : w.Alike v) : v.catalog = w.catalog := congrArg (·.catalog) h.rest

theorem Alike.failing (h : w.Alike v) : v.failing = w.failing := congrArg (·.failing) h.rest

theorem Alike.now (h : w.Alike v) : v.now = w.now := congrArg (·.now) h.rest

/-- Alike worlds leave the same audit entry behind. -/
theorem Alike.recorded (h : w.Alike v) (entry : AuditEntry) :
    Alike { w with audit := w.audit ++ [entry] } { v with audit := v.audit ++ [entry] } :=
  ⟨⟨h.holds.catalog, h.holds.secrets⟩, h.secrets, h.workloads, by rw [h.rest]⟩

/-- Alike worlds stay alike with other secrets of the same keys. -/
theorem Alike.withSecrets (h : w.Alike v) {a b : RecordStore}
    (hab : Dict.Alike Record.SameKeys a.records b.records) :
    Alike { w with secrets := a } { v with secrets := b } :=
  ⟨⟨h.holds.catalog, h.holds.secrets⟩, hab, h.workloads, by rw [h.rest]⟩

/-- Only calls on the orchestrator are made to fail in either world. -/
theorem Alike.holds_right (h : w.Alike v) : v.StoresHold :=
  ⟨fun call => h.failing ▸ h.holds.catalog call, fun call => h.failing ▸ h.holds.secrets call⟩

end World

namespace Procedure

variable {α β γ δ : Type} {R : α → β → Prop} {S : γ → δ → Prop}

/-- Procedures that, run on alike worlds, end with related results in alike worlds. -/
structure Alike (R : α → β → Prop) (p : Procedure α) (q : Procedure β) : Prop where
  run : ∀ w v : World, w.Alike v →
    Outcome.Alike R (w.run p).1 (v.run q).1 ∧ (w.run p).2.Alike (v.run q).2

/-! ## Composition -/

theorem Alike.pure {a : α} {b : β} (h : R a b) : Alike R (Pure.pure a) (Pure.pure b) :=
  ⟨fun _ _ hworlds => ⟨.ok h, hworlds⟩⟩

theorem Alike.lift {x : Outcome α} {y : Outcome β} (h : Outcome.Alike R x y) :
    Alike R (Dialogue.lift x) (Dialogue.lift y) := ⟨fun _ _ hworlds => ⟨h, hworlds⟩⟩

theorem Alike.fail (e : EngineError) : Alike R (Dialogue.fail e) (Dialogue.fail e) :=
  ⟨fun _ _ hworlds => ⟨.error e, hworlds⟩⟩

theorem Alike.bind {p : Procedure α} {q : Procedure β} {f : α → Procedure γ}
    {g : β → Procedure δ} (h : Alike R p q) (hnext : ∀ a b, R a b → Alike S (f a) (g b)) :
    Alike S (p >>= f) (q >>= g) := by
  refine ⟨fun w v hworlds => ?_⟩
  obtain ⟨hresults, hafter⟩ := h.run w v hworlds
  rw [World.run_bind, World.run_bind]
  rcases hp : w.run p with ⟨x, w'⟩
  rcases hq : v.run q with ⟨y, v'⟩
  rw [hp, hq] at hresults hafter
  cases hresults with
  | ok hab => exact (hnext _ _ hab).run w' v' hafter
  | error e => exact ⟨.error e, hafter⟩

theorem Alike.map {p : Procedure α} {q : Procedure β} {f : α → γ} {g : β → δ} (h : Alike R p q)
    (hfg : ∀ a b, R a b → S (f a) (g b)) : Alike S (f <$> p) (g <$> q) := by
  refine ⟨fun w v hworlds => ?_⟩
  obtain ⟨hresults, hafter⟩ := h.run w v hworlds
  rw [World.run_map, World.run_map]
  refine ⟨?_, hafter⟩
  generalize (w.run p).1 = x at hresults ⊢
  generalize (v.run q).1 = y at hresults ⊢
  cases hresults with
  | ok hab => exact .ok (hfg _ _ hab)
  | error e => exact .error e

theorem Alike.attempt {p : Procedure α} {q : Procedure β} (h : Alike R p q) :
    Alike (Outcome.Alike R) (Dialogue.attempt p) (Dialogue.attempt q) := by
  refine ⟨fun w v hworlds => ?_⟩
  obtain ⟨hresults, hafter⟩ := h.run w v hworlds
  rw [World.run_attempt, World.run_attempt]
  exact ⟨.ok hresults, hafter⟩

/-- The audit entries of alike procedures are the same. -/
theorem Alike.audited {p : Procedure α} {q : Procedure β} (h : Alike R p q) (principal : Principal)
    (action : AuditAction) (category : ResourceKind) (target : String) :
    Alike R (Procedure.audited principal action category target p)
      (Procedure.audited principal action category target q) := by
  refine ⟨fun w v hworlds => ?_⟩
  obtain ⟨hresults, hafter⟩ := h.run w v hworlds
  have hentry : World.entryOf principal action category target (v.run q).1 =
      World.entryOf principal action category target (w.run p).1 := by
    rw [World.entryOf, World.entryOf, hresults.isOk_eq]
  rw [World.run_audited, World.run_audited, hentry]
  exact ⟨hresults, hafter.recorded _⟩

/-- Alike procedures for every member of a list. -/
theorem Alike.each {act : γ → Procedure α} {other : γ → Procedure β}
    (h : ∀ c, Alike R (act c) (other c)) (members : List γ) :
    Alike (List.Forall₂ R) (Dialogue.each act members) (Dialogue.each other members) := by
  induction members with
  | nil => exact .pure .nil
  | cons c members ih =>
    exact (h c).bind fun a b hab => ih.bind fun as bs hrest => .pure (.cons hab hrest)

/-! ## Requests -/

/-- A call on the catalog. -/
theorem Alike.catalog (call : CatalogCall) :
    Alike Eq (Procedure.catalog call) (Procedure.catalog call) := by
  refine ⟨fun w v hworlds => ?_⟩
  rw [World.run_catalog, World.run_catalog, hworlds.catalog, World.guarded, World.guarded,
    hworlds.failing]
  split
  · exact ⟨.error _, hworlds⟩
  · refine ⟨.refl (fun _ => rfl) _, ⟨hworlds.holds.catalog, hworlds.holds.secrets⟩,
      hworlds.secrets, hworlds.workloads, ?_⟩
    rw [hworlds.rest]

/-- The keys of a secret are looked up. -/
theorem Alike.readSecret (name : String) : Alike (Option.Rel Record.SameKeys)
    (Procedure.secrets (.get name)) (Procedure.secrets (.get name)) := by
  refine ⟨fun w v hworlds => ?_⟩
  rw [World.run_secrets_get hworlds.holds, World.run_secrets_get hworlds.holds_right]
  exact ⟨.ok (hworlds.secrets.get? name), hworlds⟩

/-- A secret is removed. -/
theorem Alike.removeSecret (name : String) :
    Alike Eq (Procedure.secrets (.delete name)) (Procedure.secrets (.delete name)) := by
  refine ⟨fun w v hworlds => ?_⟩
  rw [World.run_secrets_delete hworlds.holds, World.run_secrets_delete hworlds.holds_right]
  refine ⟨.ok rfl, hworlds.withSecrets ?_⟩
  rw [RecordStore.removeSecret, RecordStore.removeSecret, hworlds.secrets.contains_eq name]
  split
  · exact hworlds.secrets.erase name
  · exact hworlds.secrets

/-- A call that alike orchestrators answer alike. -/
theorem Alike.workloads {c d : WorkloadCall} {R : c.Reply → d.Reply → Prop}
    (h : Simulator.AnsweredAlike R) : Alike R (Procedure.workloads c) (Procedure.workloads d) := by
  refine ⟨fun w v hworlds => ?_⟩
  rw [World.run_workloads, World.run_workloads, World.guarded, World.guarded, h.name,
    hworlds.failing, hworlds.now]
  split
  · exact ⟨.error _, hworlds⟩
  · obtain ⟨hanswers, hafter⟩ := h.answer (Instant.ofMillis w.now) hworlds.workloads
    refine ⟨hanswers, ⟨hworlds.holds.catalog, hworlds.holds.secrets⟩, hworlds.secrets, hafter, ?_⟩
    rw [hworlds.rest]

theorem Alike.count (metric : Metric) :
    Alike Eq (Procedure.count metric) (Procedure.count metric) :=
  ⟨fun _ _ hworlds => ⟨.ok rfl, ⟨hworlds.holds.catalog, hworlds.holds.secrets⟩, hworlds.secrets,
    hworlds.workloads, by rw [hworlds.rest]; rfl⟩⟩

theorem Alike.clock : Alike Eq Procedure.clock Procedure.clock :=
  ⟨fun _ _ hworlds => ⟨.ok hworlds.now.symm, hworlds⟩⟩

theorem Alike.sleepUntil (due : Nat) :
    Alike Eq (Procedure.sleepUntil due) (Procedure.sleepUntil due) := by
  refine ⟨fun w v hworlds => ?_⟩
  rw [World.run_sleepUntil, World.run_sleepUntil, hworlds.now]
  exact ⟨.ok rfl, ⟨hworlds.holds.catalog, hworlds.holds.secrets⟩, hworlds.secrets,
    hworlds.workloads, by rw [hworlds.rest]⟩

end Procedure

end TaskEngine
