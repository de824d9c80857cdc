import TaskEngine.Proofs.ReadWrite

/-!
# Updates of stored secrets

An update of a secret reads what is stored, merges, and makes at most one write: none if the merge
changes nothing, a removal if it leaves no key. The demands of the store on a write are met in every
case, so an update never fails. Made once more, it finds its own result and writes nothing, also
where that result is that the secret is gone.
-/

namespace TaskEngine

open Engine

namespace Secret

/-- An update that was merged submits nothing new. -/
theorem merge_merge_self (current desired : Record) :
    merge (merge current desired) desired = merge current desired := by
  refine Dict.ext_get? fun key => ?_
  rw [get?_merge, get?_merge, mergedValue_mergedValue]
  cases desired.get? key with
  | none => rfl
  | some value => simp [submittedValue]

/-- A secret that is not kept has no keys, so nothing of a secret is lost. -/
theorem getD_kept (secret : Record) : (kept secret).getD ∅ = secret := by
  rw [kept]
  split
  · rename_i hempty
    exact (Dict.isEmpty_iff.mp hempty).symm
  · rfl

/-- Nothing has happened to a secret that is stored as before. -/
theorem UpdateOutcome.ofChange_self (stored : Option Record) :
    ofChange stored stored = .unchanged := by
  cases stored <;> simp [ofChange]

end Secret

namespace RecordStore

variable {s : RecordStore} {name : String}

/-- An update is counted as one write if it changes what is stored. -/
theorem writes_mergeSecret (s : RecordStore) (name : String) (desired : Record) :
    (s.mergeSecret name desired).writes = s.writes +
      if (s.mergeSecret name desired).records.get? name = s.records.get? name then 0 else 1 := by
  simp only [mergeSecret]
  rcases Option.eq_none_or_eq_some (s.records.get? name) with hstored | ⟨stored, hstored⟩
  · simp only [hstored]
    split
    · simp
    · simp [written]
  · simp only [hstored]
    split
    · simp
    · rename_i hchanged
      split
      · simp
      · simp [written, Ne.symm hchanged]

/-- The same update once more changes nothing. -/
theorem mergeSecret_mergeSecret (hkeys : s.records.get? name ≠ some ∅) (desired : Record) :
    (s.mergeSecret name desired).mergeSecret name desired = s.mergeSecret name desired := by
  apply mergeSecret_eq_self
  rw [mergedSecret, get?_mergeSecret hkeys, Secret.getD_kept, mergedSecret, Secret.merge_merge_self]

/-- What an update of the secret under a name makes of a store, and what it tells about it. -/
structure Updated (before after : RecordStore) (name : String) (desired : Record)
    (outcome : Secret.UpdateOutcome) : Prop where
  /-- The merged secret is stored; one without keys is not. -/
  stored : after.records.get? name =
    Secret.kept (Secret.merge ((before.records.get? name).getD ∅) desired)
  /-- Every other secret stays. -/
  others : ∀ other, other ≠ name → after.records.get? other = before.records.get? other
  /-- Only a change is a write. -/
  writes : after.writes = before.writes +
    if after.records.get? name = before.records.get? name then 0 else 1
  /-- The outcome is what has changed. -/
  outcome : outcome = .ofChange (before.records.get? name) (after.records.get? name)

/-- A merge into a store without empty secrets is an update in this sense. -/
theorem updated_mergeSecret (hkeys : s.records.get? name ≠ some ∅) (desired : Record) :
    s.Updated (s.mergeSecret name desired) name desired
      (.ofChange (s.records.get? name) ((s.mergeSecret name desired).records.get? name)) where
  stored := get?_mergeSecret hkeys desired
  others _ hother := get?_mergeSecret_of_ne hother desired
  writes := writes_mergeSecret s name desired
  outcome := rfl

end RecordStore

namespace World

variable {w : World}

/-- An update of a secret succeeds, changes what it says and nothing else, and changes nothing when
it is made once more. -/
theorem applySecret_exact (hholds : w.StoresHold) {name : String}
    (hkeys : w.secrets.records.get? name ≠ some ∅) (desired : Record) :
    ∃ outcome after, w.run (applySecret name desired) = (.ok outcome, { w with secrets := after }) ∧
      w.secrets.Updated after name desired outcome ∧
      World.run { w with secrets := after } (applySecret name desired) =
        (.ok .unchanged, { w with secrets := after }) := by
  have hupdated := RecordStore.updated_mergeSecret hkeys desired
  refine ⟨_, w.secrets.mergeSecret name desired, run_applySecret_eq hholds name desired,
    hupdated, ?_⟩
  have hafter : StoresHold { w with secrets := w.secrets.mergeSecret name desired } :=
    ⟨hholds.catalog, hholds.secrets⟩
  rw [run_applySecret_eq hafter, RecordStore.mergeSecret_mergeSecret hkeys,
    Secret.UpdateOutcome.ofChange_self]

/-- A store with one secret of one key. -/
def guarding : World :=
  { secrets := {
      records := Dict.ofList [("hello", Dict.ofList [("password", "sesame")])], writes := 1 } }

/-- An update that leaves no key removes the secret with one write, and then finds it gone. -/
theorem applySecret_exact_guarding :
    ∃ after, guarding.run (applySecret "hello" (Dict.ofList [("password", "")])) =
        (.ok .deleted, { guarding with secrets := after }) ∧
      after.records.get? "hello" = none ∧ after.writes = 2 ∧
      World.run { guarding with secrets := after }
          (applySecret "hello" (Dict.ofList [("password", "")])) =
        (.ok .unchanged, { guarding with secrets := after }) := by
  obtain ⟨outcome, after, hrun, hupdated, hagain⟩ :=
    @applySecret_exact guarding (storesHold_of_calm rfl) "hello" (by decide)
      (Dict.ofList [("password", "")])
  have hgone : after.records.get? "hello" = none := hupdated.stored.trans (by decide)
  have houtcome : outcome = .deleted := by
    rw [hupdated.outcome, hgone]
    decide
  have hwrites : after.writes = 2 := by
    rw [hupdated.writes, hgone]
    decide
  exact ⟨after, houtcome ▸ hrun, hgone, hwrites, hagain⟩

end World

end TaskEngine
