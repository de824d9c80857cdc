import TaskEngine.Proofs.SecretStore

/-!
# Secrets that are inherited

A definition is removed in two steps, its record first and its secret second. Where the second is
refused, the record is gone and the secret stays behind, where no call finds it: each that could
remove it asks for the record first. The next definition that is created under the name merges its
own secret into the one that stayed, or takes it as it is. Nothing else leaves a secret behind.
-/

namespace TaskEngine

open Engine

/-! ## Histories -/

/-- A call in a history, with the worlds before and after it. -/
structure Passage where
  before : World
  call : ServiceCall
  reply : Outcome ServiceReply
  after : World

/-- The calls of a history over unreliable stores, from empty stores on, and a world after them.
Between two calls all but the two stores may change. -/
inductive History (config : EngineConfig) : List Passage → World → Prop
  | start {w : World} (catalog : w.catalog = {}) (secrets : w.secrets = {}) : History config [] w
  | call {past : List Passage} {w v : World} {call : ServiceCall} {reply : Outcome ServiceReply}
    (earlier : History config past w) (run : w.Runs True (call.procedure config) reply v) :
    History config (past ++ [⟨w, call, reply, v⟩]) v
  | turn {past : List Passage} {w v : World} (earlier : History config past w)
    (catalog : v.catalog = w.catalog) (secrets : v.secrets = w.secrets) : History config past v

/-- A removal that was cut short: the record under the name is gone, its secret stays, and the
caller was told that it failed. -/
structure Passage.CutShort (p : Passage) (name : String) : Prop where
  called : ∃ principal, p.call = .deleteRunner principal name ∨ p.call = .deleteTask principal name
  failed : p.reply.isOk = false
  held : p.before.catalog.records.contains name = true
  gone : p.after.catalog.records.contains name = false
  kept : p.after.secrets = p.before.secrets

/-! ## Where a secret without a record comes from -/

/-- A secret stands under a name that has no record. -/
def Orphaned (catalog secrets : RecordStore) (name : String) : Prop :=
  catalog.records.contains name = false ∧ (secrets.records.get? name).isSome = true

namespace Orphaned

variable {catalog secrets : RecordStore} {name other : String}

/-- A record that was written is no orphan's, and makes no other name one. -/
theorem of_write {record : Record} {merged : RecordStore}
    (hrest : ∀ name, name ≠ other → merged.records.get? name = secrets.records.get? name)
    (h : Orphaned (catalog.written other record) merged name) : Orphaned catalog secrets name := by
  obtain ⟨hfree, hstored⟩ := h
  have hne : name ≠ other := by
    rintro rfl
    rw [SecretsOwned.contains_written] at hfree
    cases hfree
  refine ⟨?_, hrest name hne ▸ hstored⟩
  rw [Dict.contains_eq_false_iff] at hfree ⊢
  simpa [RecordStore.written, hne.symm] using hfree

end Orphaned

/-- A runner that is written leaves the secrets of other names. -/
theorem RecordStore.get?_withRunner_of_ne {secrets : RecordStore} {r : Runner} {name : String}
    (h : name ≠ r.name) :
    (secrets.withRunner r).records.get? name = secrets.records.get? name := by
  unfold withRunner
  split
  · exact get?_mergeSecret_of_ne h _
  · rfl

/-- A task that is written leaves the secrets of other names. -/
theorem RecordStore.get?_withTask_of_ne {secrets : RecordStore} {t : Task} {mode : WriteMode}
    {name : String} (h : name ≠ t.name) :
    (secrets.withTask t mode).records.get? name = secrets.records.get? name := by
  unfold withTask
  split
  · exact get?_mergeSecret_of_ne h _
  · exact get?_removeSecret_of_ne h
  · rfl

/-- A call makes an orphan of a secret only by a removal that is cut short. -/
theorem Stores.Edited.orphaned {unreliable : Prop} {s : Stores} {call : ServiceCall} {ok : Bool}
    {catalog secrets : RecordStore} (h : s.Edited unreliable call ok catalog secrets)
    {name : String} (horphaned : Orphaned catalog secrets name) :
    Orphaned s.catalog s.secrets name ∨
      (∃ isKind, call.removed? = some (name, isKind) ∧ s.Holds isKind name) ∧ ok = false ∧
        secrets = s.secrets := by
  cases h with
  | kept idle => exact .inl horphaned
  | runner called valid admitted rest =>
    refine .inl (horphaned.of_write fun other hne => ?_)
    rcases rest with rfl | ⟨-, -, rfl⟩
    · exact RecordStore.get?_withRunner_of_ne hne
    · rfl
  | task called valid admitted rest =>
    refine .inl (horphaned.of_write fun other hne => ?_)
    rcases rest with rfl | ⟨-, -, rfl⟩
    · exact RecordStore.get?_withTask_of_ne hne
    · rfl
  | schema schema called held isTask => exact .inl (horphaned.of_write fun _ _ => rfl)
  | @removal removed isKind secrets called held rest =>
    by_cases hname : name = removed
    · subst hname
      rcases rest with rfl | ⟨-, hfailed, rfl⟩
      · exact absurd horphaned.2 (by simp [RecordStore.get?_removeSecret])
      · exact .inr ⟨⟨isKind, called, held⟩, hfailed, rfl⟩
    · refine .inl ⟨?_, ?_⟩
      · have hfree := Dict.contains_eq_false_iff.mp horphaned.1
        exact Dict.contains_eq_false_iff.mpr (by simpa [Ne.symm hname] using hfree)
      · rcases rest with rfl | ⟨-, -, rfl⟩
        · exact RecordStore.get?_removeSecret_of_ne hname ▸ horphaned.2
        · exact horphaned.2
  | @secret owner secrets called held rest =>
    have hne : name ≠ owner := by
      rintro rfl
      have hfree := Dict.contains_eq_false_iff.mp horphaned.1
      rcases held with ⟨record, hget, -⟩ | ⟨record, hget, -⟩ <;> rw [hfree] at hget <;> cases hget
    refine .inl ⟨horphaned.1, ?_⟩
    rcases rest with ⟨desired, rfl⟩ | rfl
    · exact RecordStore.get?_mergeSecret_of_ne hne desired ▸ horphaned.2
    · exact RecordStore.get?_removeSecret_of_ne hne ▸ horphaned.2

/-- A secret without a record stayed behind a removal that was cut short. -/
theorem History.cutShort_of_orphaned {config : EngineConfig} {past : List Passage} {w : World}
    (h : History config past w) {name : String} (horphaned : Orphaned w.catalog w.secrets name) :
    ∃ passage ∈ past, passage.CutShort name := by
  induction h with
  | start hcatalog hsecrets =>
    rw [hsecrets] at horphaned
    cases horphaned.2
  | turn earlier hcatalog hsecrets ih =>
    rw [hcatalog, hsecrets] at horphaned
    exact ih horphaned
  | @call past w v call reply earlier run ih =>
    rcases (World.edits_call config call reply v run).orphaned horphaned with
      hbefore | ⟨⟨isKind, hcalled, record, hget, -⟩, hfailed, hkept⟩
    · obtain ⟨passage, hmem, hcut⟩ := ih hbefore
      exact ⟨passage, List.mem_append_left _ hmem, hcut⟩
    · refine ⟨_, List.mem_append_right _ List.mem_cons_self, ?_, hfailed,
        Dict.contains_iff.mpr ⟨record, hget⟩, horphaned.1, hkept⟩
      rcases ServiceCall.removed?_eq_some hcalled with ⟨principal, rfl, -⟩ | ⟨principal, rfl, -⟩
      · exact ⟨principal, .inl rfl⟩
      · exact ⟨principal, .inr rfl⟩

/-! ## What is inherited -/

/-- The name of the definition that a call creates, with the secret that is supplied. -/
def ServiceCall.supplied? : ServiceCall → Option (String × Record)
  | .createTask _ t => some (t.name, t.secret.getD ∅)
  | .createRunner _ r =>
    some (r.name, (r.token.map fun token => Dict.ofList [(Runner.tokenKey, token)]).getD ∅)
  | _ => none

/-- A value is that of a secret. -/
theorem RecordStore.isSome_of_value? {s : RecordStore} {name key : String}
    (h : (s.value? name key).isSome = true) : (s.records.get? name).isSome = true := by
  rw [value?] at h
  cases hstored : s.records.get? name with
  | none => simp [hstored] at h
  | some secret => rfl

/-- Whether the secret under a name has only keys that were supplied. -/
def RecordStore.Within (secrets : RecordStore) (name : String) (supplied : Record) : Prop :=
  ∀ key, (secrets.value? name key).isSome = true → supplied.contains key = true

/-- Whether there is a key that was not supplied does not depend on what was. -/
theorem RecordStore.within_iff_of_merged {before after : RecordStore} {name : String}
    {supplied : Record}
    (h : ∀ key, after.value? name key =
      Secret.mergedValue (before.value? name key) (supplied.get? key)) :
    after.Within name supplied ↔ before.Within name supplied := by
  refine forall_congr' fun key => ?_
  rw [h key]
  cases hsupplied : supplied.get? key with
  | none => rfl
  | some value => simp [Dict.contains_iff.mpr ⟨value, hsupplied⟩]

/-- A definition that is created finds its name free, and its secret is merged into what is stored
there. -/
theorem Stores.Edited.created {unreliable : Prop} {s : Stores} {call : ServiceCall}
    {catalog secrets : RecordStore} (h : s.Edited unreliable call true catalog secrets)
    {name : String} {supplied : Record} (hcreates : call.supplied? = some (name, supplied)) :
    s.catalog.records.contains name = false ∧
      ∀ key, secrets.value? name key =
        Secret.mergedValue (s.secrets.value? name key) (supplied.get? key) := by
  cases call <;> cases hcreates
  case createRunner principal r =>
    cases h with
    | kept idle => cases (idle rfl).1
    | runner called valid admitted rest =>
      cases called
      obtain rfl := rest.resolve_right fun hfailed => by cases hfailed.2.1
      refine ⟨Dict.contains_eq_false_iff.mpr admitted, fun key => ?_⟩
      unfold RecordStore.withRunner
      cases r.token with
      | none => rfl
      | some token => exact RecordStore.value?_mergeSecret _ key
    | task called | schema _ called | removal called | secret called => cases called
  case createTask principal t =>
    cases h with
    | kept idle => cases (idle rfl).2.1
    | task called valid admitted rest =>
      cases called
      obtain rfl := rest.resolve_right fun hfailed => by cases hfailed.2.1
      refine ⟨Dict.contains_eq_false_iff.mpr admitted, fun key => ?_⟩
      unfold RecordStore.withTask
      cases t.secret with
      | none => rfl
      | some desired => exact RecordStore.value?_mergeSecret desired key
    | runner called | schema _ called | removal called | secret called => cases called

/-- Whatever the stores have refused before: a definition that is created has a secret with no other
keys than the supplied ones exactly if no others have stayed behind under its name, and they only
stay behind a removal that was cut short. -/
theorem History.within_created_iff {config : EngineConfig} {past : List Passage} {w v : World}
    (h : History config past w) {call : ServiceCall} {name : String} {supplied : Record}
    (hcreates : call.supplied? = some (name, supplied)) {reply : ServiceReply}
    (hrun : w.Runs True (call.procedure config) (.ok reply) v) :
    (v.secrets.Within name supplied ↔ w.secrets.Within name supplied) ∧
      (¬ v.secrets.Within name supplied → ∃ passage ∈ past, passage.CutShort name) := by
  have hedited : w.stores.Edited True call true v.catalog v.secrets :=
    World.edits_call config call (.ok reply) v hrun
  obtain ⟨hfree, hmerged⟩ := hedited.created hcreates
  have hiff := RecordStore.within_iff_of_merged hmerged
  refine ⟨hiff, fun hinherits => h.cutShort_of_orphaned ⟨hfree, ?_⟩⟩
  rw [hiff, RecordStore.Within, not_forall] at hinherits
  obtain ⟨key, hkey⟩ := hinherits
  exact RecordStore.isSome_of_value? (Classical.not_imp.mp hkey).1

/-! ## A secret that is inherited -/

/-- Calls one after the other, each with the calls on the stores that fail meanwhile. -/
def World.play (config : EngineConfig) (w : World) :
    List (List String × ServiceCall) → List Passage × World
  | [] => ([], w)
  | (failing, call) :: rest =>
    let before := { w with failing }
    let (reply, after) := before.run (call.procedure config)
    let (passages, last) := after.play config rest
    (⟨before, call, reply, after⟩ :: passages, last)

/-- Calls that are played make a history. -/
theorem History.play {config : EngineConfig} {past : List Passage} {w : World}
    (h : History config past w) (script : List (List String × ServiceCall)) :
    History config (past ++ (w.play config script).1) (w.play config script).2 := by
  induction script generalizing past w with
  | nil => simpa only [World.play, List.append_nil] using h
  | cons entry rest ih =>
    have hturned : History config past { w with failing := entry.1 } := h.turn rfl rfl
    have hnext := ih
      (hturned.call (World.runs_run_of_unreliable trivial _ (entry.2.procedure config)))
    rwa [List.append_assoc, List.singleton_append] at hnext

/-- A task with a password is created and removed, with its secret staying behind. -/
def abandoning : List (List String × ServiceCall) :=
  [([], .createRunner ⟨"alice", "local"⟩
      { name := "shell", image := "busybox", gitUrl := "https://example.org/greetings.git"
        branch := "", token := none }),
    ([], .createTask ⟨"alice", "local"⟩
      { name := "hello", runner := "shell", command := "echo hello", synchronous := false
        schema := none, secret := some (Dict.ofList [("password", "sesame")]) }),
    (["secrets.delete"], .deleteTask ⟨"alice", "local"⟩ "hello")]

/-- A task of the same name, with a secret of its own. -/
def successor : ServiceCall := .createTask ⟨"bob", "local"⟩
  { name := "hello", runner := "shell", command := "env", synchronous := false
    schema := none, secret := some (Dict.ofList [("color", "green")]) }

/-- The secret of the new task is that of both. -/
theorem secrets_successor :
    ((World.play .standard {} abandoning).2.run (successor.procedure .standard)).1.isOk = true ∧
      ((World.play .standard {} abandoning).2.run
        (successor.procedure .standard)).2.secrets.records.get? "hello" =
          some (Dict.ofList [("color", "green"), ("password", "sesame")]) := by
  decide +kernel

/-- The new task is created with the password of its predecessor. -/
theorem not_within_successor :
    ∃ past w v reply, History .standard past w ∧
      successor.supplied? = some ("hello", Dict.ofList [("color", "green")]) ∧
      w.Runs True (successor.procedure .standard) (.ok reply) v ∧
      v.secrets.records.get? "hello" =
        some (Dict.ofList [("color", "green"), ("password", "sesame")]) ∧
      ¬ v.secrets.Within "hello" (Dict.ofList [("color", "green")]) := by
  obtain ⟨hok, hsecret⟩ := secrets_successor
  obtain ⟨reply, hreply⟩ := Outcome.isOk_iff.mp hok
  have hrun := World.runs_run_of_unreliable trivial (World.play .standard {} abandoning).2
    (successor.procedure .standard)
  rw [hreply] at hrun
  refine ⟨_, _, _, reply, (History.start rfl rfl).play abandoning, rfl, hrun, hsecret, ?_⟩
  intro hwithin
  have hkey := hwithin "password" (by rw [RecordStore.value?, hsecret]; decide +kernel)
  exact absurd hkey (by decide +kernel)

/-- What stayed behind the removal is what makes the difference, and the removal is in the
history. -/
theorem within_created_iff_successor :
    ∃ past w v reply, History .standard past w ∧
      w.Runs True (successor.procedure .standard) (.ok reply) v ∧
      (v.secrets.Within "hello" (Dict.ofList [("color", "green")]) ↔
        w.secrets.Within "hello" (Dict.ofList [("color", "green")])) ∧
      (¬ v.secrets.Within "hello" (Dict.ofList [("color", "green")]) →
        ∃ passage ∈ past, passage.CutShort "hello") := by
  obtain ⟨reply, hreply⟩ := Outcome.isOk_iff.mp secrets_successor.1
  have hrun := World.runs_run_of_unreliable trivial (World.play .standard {} abandoning).2
    (successor.procedure .standard)
  rw [hreply] at hrun
  have hstart : History .standard [] {} := .start rfl rfl
  have hhistory := hstart.play abandoning
  exact ⟨_, _, _, reply, hhistory, hrun, hhistory.within_created_iff rfl hrun⟩

end TaskEngine
