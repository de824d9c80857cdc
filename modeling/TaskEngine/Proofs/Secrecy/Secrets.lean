import TaskEngine.Proofs.Secrecy.Runs

/-!
# Updates of secrets in two runs

An update decides by a value only whether it is empty or the stand-in. Two updates with the same
keys that agree where either is one of these two leave secrets with the same keys behind, and what
is shown of a secret are its keys.
-/

namespace TaskEngine

open Engine

namespace Secret

/-- Submitted values that are put to the same use: the same, or two that are both to be stored. -/
def SameUse (a b : String) : Prop := a = b ∨ (a ≠ "" ∧ a ≠ standIn) ∧ b ≠ "" ∧ b ≠ standIn

theorem SameUse.refl (a : String) : SameUse a a := .inl rfl

/-- One entry of an update does the same to the keys. -/
theorem applyEntry_sameKeys {secret other : Record} (h : secret.SameKeys other) (key : String)
    {a b : String} (hab : SameUse a b) :
    Record.SameKeys (applyEntry secret (key, a)) (applyEntry other (key, b)) := by
  rw [applyEntry, applyEntry]
  rcases hab with rfl | ⟨⟨ha, ha'⟩, hb, hb'⟩
  · split
    · exact h
    · split
      · exact Dict.Alike.erase h key
      · exact Dict.Alike.insert h key trivial
  · rw [if_neg ha', if_neg ha, if_neg hb', if_neg hb]
    exact Dict.Alike.insert h key trivial

/-- An update does the same to the keys. -/
theorem merge_sameKeys {secret other : Record} (h : secret.SameKeys other) {desired wanted : Record}
    (hdesired : Dict.Alike SameUse desired wanted) :
    (merge secret desired).SameKeys (merge other wanted) := by
  rw [merge, merge]
  replace hdesired : List.Forall₂ (fun a b => a.1 = b.1 ∧ SameUse a.2 b.2) desired.toList
    wanted.toList := hdesired
  generalize desired.toList = entries at hdesired
  generalize wanted.toList = others at hdesired
  induction hdesired generalizing secret other with
  | nil => exact h
  | @cons a b entries others hhead _ ih =>
    obtain ⟨key, value⟩ := a
    obtain ⟨key', value'⟩ := b
    obtain ⟨hkey, huse⟩ := hhead
    cases hkey
    exact ih (applyEntry_sameKeys h _ huse)

/-- Secrets with the same keys are shown the same. -/
theorem redact_eq {secret other : Record} (h : secret.SameKeys other) :
    redact other = redact secret := (Dict.Alike.map_eq (fun _ _ _ => rfl) h).symm

end Secret

namespace RecordStore

/-- Updates of secrets do the same to the keys. -/
theorem mergeSecret_alike {s t : RecordStore} (h : Dict.Alike Record.SameKeys s.records t.records)
    (name : String) {desired wanted : Record}
    (hdesired : Dict.Alike Secret.SameUse desired wanted) :
    Dict.Alike Record.SameKeys (s.mergeSecret name desired).records
      (t.mergeSecret name wanted).records := by
  have hstored := h.get? name
  have hmerged : (s.mergedSecret name desired).SameKeys (t.mergedSecret name wanted) :=
    Secret.merge_sameKeys (rel_getD hstored (Dict.Alike.refl (fun _ => trivial) ∅)) hdesired
  have hnone : t.records.get? name = some ∅ ↔ s.records.get? name = some ∅ := by
    generalize s.records.get? name = a at hstored ⊢
    generalize t.records.get? name = b at hstored ⊢
    cases hstored with
    | none => exact Iff.rfl
    | some hab =>
      rw [Option.some.injEq, Option.some.injEq, ← Dict.isEmpty_iff, ← Dict.isEmpty_iff,
        hab.isEmpty_eq]
  rw [records_mergeSecret, records_mergeSecret, hmerged.isEmpty_eq]
  simp only [hnone]
  split
  · split
    · exact h
    · exact h.erase name
  · exact h.insert name hmerged

end RecordStore

namespace Procedure

/-- An update of a secret in two runs. -/
theorem Alike.applySecret (name : String) {desired wanted : Record}
    (h : Dict.Alike Secret.SameUse desired wanted) :
    Alike (fun _ _ => True) (applySecret name desired) (Engine.applySecret name wanted) := by
  refine ⟨fun w v hworlds => ?_⟩
  obtain ⟨outcome, hw⟩ := World.run_applySecret hworlds.holds name desired
  obtain ⟨outcome', hv⟩ := World.run_applySecret hworlds.holds_right name wanted
  rw [hw, hv]
  exact ⟨.ok trivial, hworlds.withSecrets (RecordStore.mergeSecret_alike hworlds.secrets name h)⟩

/-- A secret is shown the same in two runs. -/
theorem Alike.redactedSecret (name : String) :
    Alike Eq (redactedSecret name) (Engine.redactedSecret name) := by
  refine (Alike.readSecret name).bind fun a b hab => .pure ?_
  cases hab with
  | none => rfl
  | some hab => rw [Option.map_some, Option.map_some, Secret.redact_eq hab]

end Procedure

end TaskEngine
