import Mathlib.Data.List.Induction
import TaskEngine.Catalog.Secret
import TaskEngine.Proofs.Dict

/-!
# Updates of secrets

An update merges every key on its own: a stand-in keeps the value, an empty value removes it, any
other one replaces it, and a key that is not named is kept. So two updates make one, in which a
stand-in of the second gives way to what the first says of its key, and after any number of updates a
key has the value that was last submitted for it and is no stand-in.
-/

namespace TaskEngine.Secret

/-! ## Merging key by key -/

/-- What an update makes of the value under a key. -/
def mergedValue (current desired : Option String) : Option String :=
  match desired with
  | none => current
  | some value => if value = standIn then current else if value = "" then none else some value

/-- An entry of an update is about its key. -/
theorem get?_applyEntry (secret : Record) (entry : String × String) (key : String) :
    (applyEntry secret entry).get? key =
      if entry.1 = key then mergedValue (secret.get? key) (some entry.2) else secret.get? key := by
  rw [applyEntry, mergedValue]
  split
  · simp
  · split <;> simp

/-- An update merges every key on its own. -/
theorem get?_merge (current desired : Record) (key : String) :
    (merge current desired).get? key = mergedValue (current.get? key) (desired.get? key) := by
  obtain ⟨entries, hsorted⟩ := desired
  change (entries.foldl applyEntry current).get? key =
    mergedValue (current.get? key) (Dict.lookup key entries)
  induction entries generalizing current with
  | nil => rfl
  | cons entry rest ih =>
    obtain ⟨hfirst, hrest⟩ := List.pairwise_cons.mp hsorted
    rw [List.foldl_cons, ih _ hrest, get?_applyEntry, Dict.lookup]
    split
    · rename_i hkey
      -- No later entry has the key of the first one.
      have hlater : Dict.lookup key rest = none := by
        by_contra hfound
        obtain ⟨value, hvalue⟩ := Option.ne_none_iff_exists'.mp hfound
        exact String.lt_irrefl _ (hkey ▸ hfirst _ (Dict.mem_of_lookup hvalue))
      rw [hlater]
      rfl
    · rfl

/-- A merged value is one from before, or a new one that is neither empty nor a stand-in. -/
theorem mergedValue_eq_some {current desired : Option String} {value : String}
    (h : mergedValue current desired = some value) :
    current = some value ∨ value ≠ "" ∧ value ≠ standIn := by
  cases desired with
  | none => exact .inl h
  | some new =>
    simp only [mergedValue] at h
    split at h
    · exact .inl h
    · rename_i hnew
      split at h
      · cases h
      · rename_i hfilled
        cases h
        exact .inr ⟨hfilled, hnew⟩

/-! ## Stand-ins -/

/-- An update that names stand-ins only keeps everything. -/
theorem merge_of_standIn {desired : Record} (h : ∀ entry ∈ desired.toList, entry.2 = standIn)
    (current : Record) : merge current desired = current := by
  rw [merge]
  generalize desired.toList = entries at h
  induction entries with
  | nil => rfl
  | cons entry entries ih =>
    have hentry : applyEntry current entry = current := by
      rw [applyEntry, if_pos (h entry List.mem_cons_self)]
    rw [List.foldl_cons, hentry]
    exact ih fun other hother => h other (List.mem_cons_of_mem _ hother)

/-- What is shown of a secret are stand-ins. -/
theorem eq_standIn_of_mem_redact {secret : Record} {entry : String × String}
    (h : entry ∈ (redact secret).toList) : entry.2 = standIn := by
  obtain ⟨stored, -, rfl⟩ := List.mem_map.mp h
  rfl

/-! ## Several updates -/

/-- The update that stands for two, one after the other: what the second names counts, but where it
names a stand-in, what the first names for the key. -/
def andThen (first second : Record) : Record :=
  first.insertAll
    (second.filter fun key value => !(value == standIn && first.contains key)).toList

/-- What two updates submit for a key. -/
def submittedValue (first second : Option String) : Option String :=
  match second with
  | none => first
  | some value => if value = standIn then first.or (some value) else some value

/-- Two updates are put together key by key. -/
theorem get?_andThen (first second : Record) (key : String) :
    (andThen first second).get? key = submittedValue (first.get? key) (second.get? key) := by
  have hget := Dict.get?_insertAll_of_nodup (d := first) (Dict.nodup_keys
    (second.filter fun key value => !(value == standIn && first.contains key)).sorted) key
  rw [andThen, Dict.toList, hget]
  change ((second.filter _).get? key).or (first.get? key) = _
  rw [Dict.get?_filter_eq, Dict.contains]
  cases second.get? key with
  | none => rfl
  | some value =>
    by_cases hvalue : value = standIn
    · cases first.get? key <;> simp [submittedValue, hvalue, Option.filter]
    · simp [submittedValue, hvalue]

/-- Two merges are one merge of what they submit. -/
theorem mergedValue_mergedValue (current first second : Option String) :
    mergedValue (mergedValue current first) second =
      mergedValue current (submittedValue first second) := by
  cases second with
  | none => rfl
  | some value =>
    by_cases hvalue : value = standIn
    · subst hvalue
      cases first <;> simp [mergedValue, submittedValue]
    · simp [mergedValue, submittedValue, hvalue]

/-- What updates submit last for a key, stand-ins aside. -/
def lastSubmitted (updates : List Record) (key : String) : Option String :=
  ((updates.filterMap (·.get? key)).filter (· ≠ standIn)).getLast?

/-- The last of several updates decides, unless it leaves a key out or names a stand-in for it. -/
theorem lastSubmitted_concat (updates : List Record) (update : Record) (key : String) :
    lastSubmitted (updates ++ [update]) key =
      ((update.get? key).filter (· ≠ standIn)).or (lastSubmitted updates key) := by
  rw [lastSubmitted, List.filterMap_append, List.filter_append, List.getLast?_append, lastSubmitted]
  cases hget : update.get? key with
  | none => simp [hget]
  | some value => by_cases hvalue : value = standIn <;> simp [hget, hvalue, Option.filter]

/-- After several updates a key has the value that was submitted last. -/
theorem get?_foldl_merge (current : Record) (updates : List Record) (key : String) :
    (updates.foldl merge current).get? key =
      match lastSubmitted updates key with
      | none => current.get? key
      | some value => if value = "" then none else some value := by
  induction updates using List.reverseRecOn with
  | nil => rfl
  | append_singleton updates update ih =>
    rw [List.foldl_concat, get?_merge, ih, lastSubmitted_concat]
    cases hget : update.get? key with
    | none => rfl
    | some value =>
      by_cases hvalue : value = standIn
      · simp [mergedValue, hvalue, Option.filter]
      · simp [mergedValue, hvalue, Option.filter]

/-- Updates of a secret compose: two make one, one made of what is shown changes nothing, one made
twice does what it does once, and any number of them leave under each key what was submitted last. -/
theorem merge_composes (current : Record) :
    (∀ first second, merge (merge current first) second = merge current (andThen first second)) ∧
      merge current (redact current) = current ∧
      (∀ desired, merge (merge current desired) desired = merge current desired) ∧
      ∀ updates key, (updates.foldl merge current).get? key =
        match lastSubmitted updates key with
        | none => current.get? key
        | some value => if value = "" then none else some value := by
  have hcompose : ∀ first second,
      merge (merge current first) second = merge current (andThen first second) := by
    intro first second
    refine Dict.ext_get? fun key => ?_
    rw [get?_merge, get?_merge, get?_merge, get?_andThen, mergedValue_mergedValue]
  refine ⟨hcompose, merge_of_standIn (fun _ => eq_standIn_of_mem_redact) current, ?_,
    get?_foldl_merge current⟩
  intro desired
  have hself : andThen desired desired = desired := by
    refine Dict.ext_get? fun key => ?_
    rw [get?_andThen]
    cases hget : desired.get? key with
    | none => rfl
    | some value => simp [submittedValue]
  rw [hcompose, hself]

end TaskEngine.Secret
