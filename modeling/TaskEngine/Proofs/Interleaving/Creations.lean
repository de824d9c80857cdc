import TaskEngine.Proofs.Interleaving.Crowds
import TaskEngine.Proofs.SecretStore
import TaskEngine.Proofs.Serializability

/-!
# Creations under one name

Any number of creations of runners and tasks under one free name go on in any order. None of them
changes a store before it has written its record, and the name is taken from then on. So one of them
at most writes, as if it were alone; all others fail, whatever they have checked before.
-/

namespace TaskEngine

open Engine

/-! ## What is created -/

/-- What a creation leaves under its name. -/
structure Creation where
  name : String
  /-- The record of the definition. -/
  record : Record
  /-- The secret values, or the token, that are submitted with it. -/
  submitted : Record

/-- What a call creates. -/
def ServiceCall.creation? : ServiceCall → Option Creation
  | .createRunner _ r =>
    some ⟨r.name, r.toRecord, (r.token.map fun token => Dict.ofList [(Runner.tokenKey, token)]).getD ∅⟩
  | .createTask _ t => some ⟨t.name, t.toRecord, t.secret.getD ∅⟩
  | _ => none

/-- The secret that a creation leaves: what is submitted, merged into nothing. -/
def Creation.secret (c : Creation) : Option Record := Secret.kept (Secret.merge ∅ c.submitted)

/-! ## Answers from the stores -/

namespace World

variable {w v : World} {r : Request} {s : Stores} {name : String} {α β : Type}

/-- The world with other stores. -/
def withStores (w : World) (s : Stores) : World :=
  { w with catalog := s.catalog, secrets := s.secrets, workloads := s.workloads }

/-- Answer a request from stores; what else is asked for is as it is in the world. -/
def answerStores (w : World) (r : Request) (s : Stores) : r.Reply × Stores :=
  let (reply, v) := answer r (w.withStores s)
  (reply, v.stores)

/-- Which calls fail and what the clock shows is the same in two worlds. -/
structure SameSetting (w v : World) : Prop where
  failing : v.failing = w.failing
  now : v.now = w.now

/-- A call that may be made to fail is answered alike in worlds with the same stores, if it is
answered alike where it does not fail. -/
theorem guarded_alike {u u' v' : World} (call : String) (reply : Outcome α)
    (hv : w.SameSetting v) (hu : w.SameSetting u) (hv' : w.SameSetting v')
    (hstores : v.stores = u.stores) (hstores' : v'.stores = u'.stores) :
    (v.guarded call (reply, v')).1 = (u.guarded call (reply, u')).1 ∧
      (v.guarded call (reply, v')).2.stores = (u.guarded call (reply, u')).2.stores ∧
      w.SameSetting (v.guarded call (reply, v')).2 := by
  simp only [guarded, hv.failing, hu.failing]
  split
  · exact ⟨rfl, hstores, hv⟩
  · exact ⟨rfl, hstores', hv'⟩

/-- A world answers every request but for a wait from its stores. -/
theorem answer_eq_stores (w : World) (r : Request) (v : World) (hr : ∀ due, r ≠ .sleepUntil due)
    (hv : w.SameSetting v) :
    (answer r v).1 = (w.answerStores r v.stores).1 ∧
      (answer r v).2.stores = (w.answerStores r v.stores).2 ∧ w.SameSetting (answer r v).2 := by
  have hown : w.SameSetting (w.withStores v.stores) := ⟨rfl, rfl⟩
  cases r with
  | catalog call | secrets call => exact guarded_alike _ _ hv hown ⟨hv.failing, hv.now⟩ rfl rfl
  | workloads call =>
    simp only [answerStores, answer, hv.now]
    exact guarded_alike _ _ hv hown ⟨hv.failing, rfl⟩ rfl rfl
  | sleepUntil due => exact absurd rfl (hr due)
  | record entry | count metric => exact ⟨rfl, rfl, hv.failing, hv.now⟩
  | clock => exact ⟨hv.now, rfl, hv⟩

/-! ## What creations do to stores -/

/-- In a world whose stores hold, the catalog is asked for a record. -/
theorem answerStores_get (h : w.StoresHold) (name : String) (s : Stores) :
    w.answerStores (.catalog (.get name)) s = (.ok (s.catalog.records.get? name), s) := by
  have hcalm : w.failing.contains (CatalogCall.get name).name = false := by
    simpa using h.catalog (.get name)
  simp only [answerStores, answer, guarded, withStores, hcalm]
  rfl

/-- In a world whose stores hold, a record is written under a free name only. -/
theorem answerStores_create (h : w.StoresHold) (name : String) (record : Record) (s : Stores) :
    w.answerStores (.catalog (.put name record .create)) s =
      if s.catalog.records.contains name then (.error (.conflict CatalogCall.resource name), s)
      else (.ok record, { s with catalog := s.catalog.written name record }) := by
  have hcalm : w.failing.contains (CatalogCall.put name record .create).name = false := by
    simpa using h.catalog (.put name record .create)
  simp only [answerStores, answer, guarded, withStores, hcalm, RecordStore.answerCatalog,
    RecordStore.put_eq]
  cases s.catalog.records.contains name <;> rfl

/-- What writes or removes no record leaves the catalog. -/
theorem catalog_answerStores (hr : ¬ r.Commits) (s : Stores) :
    (w.answerStores r s).2.catalog = s.catalog := by
  cases r with
  | catalog call =>
    refine guarded_cases (P := fun answer => answer.2.catalog = s.catalog) rfl ?_
    cases call with
    | get name | list => rfl
    | put name record mode => exact absurd trivial hr
    | delete name => exact absurd trivial hr
  | secrets call | workloads call =>
    exact guarded_cases (P := fun answer => answer.2.catalog = s.catalog) rfl rfl
  | record entry | count metric | clock | sleepUntil due => rfl

/-- Whether a name is taken. -/
def Taken (name : String) (s : Stores) : Prop := s.catalog.records.contains name = true

/-- A name that is taken stays so as long as no record is written or removed. -/
theorem keeps_taken {p : Procedure α} (hp : p.OnlyAsks fun r => ¬ r.Commits) :
    p.Keeps w.answerStores (Taken name) := by
  induction p with
  | done result => trivial
  | ask r next ih =>
    intro s hs
    refine ⟨?_, ih _ (hp.2 _)⟩
    change (w.answerStores r s).2.catalog.records.contains name = true
    rw [catalog_answerStores hp.1]
    exact hs

/-! ## Creations -/

/-- A procedure that vies for a name in some stores, and fails without it. -/
abbrev ViesFor (w : World) (s : Stores) (name : String) (p : Procedure α) : Prop :=
  p.Vies w.answerStores s (Taken name) fun result => result.isOk = false

/-- A creation that is over and its audit entry: nothing more is done to the stores. -/
theorem ViesFor.audited {p : Procedure α} (h : w.ViesFor s name p) (principal : Principal)
    (action : AuditAction) (category : ResourceKind) (target : String) :
    w.ViesFor s name (Procedure.audited principal action category target p) :=
  Dialogue.Vies.followedBy h (fun _ hfailed _ _ => ⟨rfl, hfailed⟩) fun _ _ htaken =>
    ⟨htaken, trivial⟩

theorem ViesFor.map {p : Procedure α} (h : w.ViesFor s name p) (f : α → β) :
    w.ViesFor s name (f <$> p) := by
  refine Dialogue.Vies.followedBy h (fun result hfailed => ?_) fun result => ?_
  · cases result with
    | ok a => cases hfailed
    | error e => exact rfl
  · cases result <;> trivial

/-- A check that fails ends a creation. -/
theorem ViesFor.lift_bind {result : Outcome α} {next : α → Procedure β}
    (h : ∀ a, result = .ok a → w.ViesFor s name (next a)) :
    w.ViesFor s name (Dialogue.lift result >>= next) := by
  cases result with
  | ok a => exact h a rfl
  | error e => exact rfl

/-- A record is written under a free name, and what follows writes no other one. -/
theorem viesFor_put (hholds : w.StoresHold) (hfree : s.catalog.records.get? name = none)
    (record : Record) {next : Record → Procedure β} (hnext : ∀ a, (next a).Minor name) :
    w.ViesFor s name (Procedure.catalog (.put name record .create) >>= next) := by
  refine ⟨fun t ht => ?_, .inr ?_⟩
  · have htaken : t.catalog.records.contains name = true := ht
    rw [answerStores_create hholds, if_pos htaken]
    exact ⟨rfl, rfl⟩
  · have hcontains : s.catalog.records.contains name = false :=
      Dict.contains_eq_false_iff.mpr hfree
    rw [answerStores_create hholds, hcontains]
    refine ⟨SecretsOwned.contains_written record, ?_⟩
    exact keeps_taken (hnext record).not_commits

theorem viesFor_writeRunner (hholds : w.StoresHold) {r : Runner}
    (hfree : s.catalog.records.get? r.name = none) :
    w.ViesFor s r.name (writeRunner r .create) := by
  refine .lift_bind fun _ _ => viesFor_put hholds hfree r.toRecord fun _ => ?_
  cases r.token with
  | none => exact minor_getRunner
  | some token => exact (minor_applySecret _).bind fun _ => minor_getRunner

/-- A look for a runner changes nothing, and what depends on it fails without one. -/
theorem viesFor_loadRunner (hholds : w.StoresHold) (runner : String) {next : Procedure β}
    (h : w.ViesFor s name next) : w.ViesFor s name (loadRunner runner >>= fun _ => next) := by
  rw [loadRunner_bind]
  refine ⟨fun t ht => ?_, .inl ?_⟩
  · rw [answerStores_get hholds]
    refine ⟨rfl, ?_⟩
    change Dialogue.Late _ _ _ (if (t.catalog.records.get? runner).any Runner.isRecord then next
      else Dialogue.fail (.notFound runnerResource runner))
    split
    · exact h.late
    · exact rfl
  · rw [answerStores_get hholds]
    refine ⟨rfl, ?_⟩
    change Dialogue.Vies _ _ _ _ (if (s.catalog.records.get? runner).any Runner.isRecord then next
      else Dialogue.fail (.notFound runnerResource runner))
    split
    · exact h
    · exact rfl

theorem viesFor_writeTask (hholds : w.StoresHold) {t : Task}
    (hfree : s.catalog.records.get? t.name = none) :
    w.ViesFor s t.name (writeTask t .create) := by
  rw [writeTask_eq]
  refine .lift_bind fun _ _ => .lift_bind fun _ _ => viesFor_loadRunner hholds t.runner ?_
  exact viesFor_put hholds hfree t.toRecord fun _ =>
    (minor_storeSecret t .create).bind fun _ => minor_getTask

variable {config : EngineConfig} {call : ServiceCall} {c : Creation}

/-- A creation vies for its name. -/
theorem viesFor_call (hholds : w.StoresHold) (hc : call.creation? = some c)
    (hfree : s.catalog.records.get? c.name = none) :
    w.ViesFor s c.name (call.procedure config) := by
  cases call <;> cases hc
  case createRunner principal r =>
    exact ((viesFor_writeRunner hholds hfree).audited _ _ _ _).map _
  case createTask principal t =>
    exact ((viesFor_writeTask hholds hfree).audited _ _ _ _).map _

/-- A creation never waits. -/
theorem onlyAsks_creation (config : EngineConfig) (hc : call.creation? = some c) :
    (call.procedure config).OnlyAsks fun r => ∀ due, r ≠ .sleepUntil due := by
  obtain ⟨m, hm⟩ : ∃ m, call.mutation? = some m := by
    cases call <;> cases hc <;> exact ⟨_, rfl⟩
  refine (footprint_call (w := {}) config hm).looks.onlyAsks.mono fun r hr due hwait => ?_
  rw [hwait] at hr
  exact hr.elim id id

end World

/-! ## What a creation leaves -/

/-- Nothing is merged into a secret. -/
theorem RecordStore.mergeSecret_empty (s : RecordStore) (name : String) :
    s.mergeSecret name ∅ = s :=
  mergeSecret_eq_self
    (Secret.merge_of_standIn (fun _ hentry => absurd hentry List.not_mem_nil) _)

/-- A creation that leaves its name taken leaves its record, and what is submitted merged into the
secret. -/
theorem Stores.Edited.of_creation {s : Stores} {call : ServiceCall} {c : Creation} {ok : Bool}
    {catalog secrets : RecordStore} (h : s.Edited False call ok catalog secrets)
    (hc : call.creation? = some c) (hfree : s.catalog.records.get? c.name = none)
    (htaken : catalog.records.contains c.name = true) :
    catalog = s.catalog.written c.name c.record ∧
      secrets = s.secrets.mergeSecret c.name c.submitted := by
  cases h with
  | kept idle =>
    rw [Dict.contains_eq_false_iff.mpr hfree] at htaken
    cases htaken
  | runner called valid admitted rest =>
    obtain rfl := rest.resolve_right fun hfailed => hfailed.1
    cases call <;> cases hc <;> cases called
    rename_i r principal
    refine ⟨rfl, ?_⟩
    rw [RecordStore.withRunner]
    cases r.token with
    | none => exact (RecordStore.mergeSecret_empty s.secrets r.name).symm
    | some token => rfl
  | task called valid admitted rest =>
    obtain rfl := rest.resolve_right fun hfailed => hfailed.1
    cases call <;> cases hc <;> cases called
    rename_i t principal
    refine ⟨rfl, ?_⟩
    unfold RecordStore.withTask
    cases t.secret with
    | none => exact (RecordStore.mergeSecret_empty s.secrets t.name).symm
    | some desired => rfl
  | schema schema called held isTask => cases call <;> cases hc <;> cases called
  | removal called held rest => cases call <;> cases hc <;> cases called
  | secret called held rest => cases call <;> cases hc <;> cases called

namespace World

variable {ι : Type} [DecidableEq ι] {config : EngineConfig} {w v : World}
  {calls : ι → ServiceCall} {name : String} {turns : List (Dialogue.Turn ι World)}
  {results : ι → Outcome ServiceReply}

/-- Whether a turn leaves both stores as it finds them, down to the count of their writes. -/
def Spared (turn : Dialogue.Turn ι World) : Prop :=
  turn.after.catalog = turn.before.catalog ∧ turn.after.secrets = turn.before.secrets

/-- What is left of a crowd of creations under one name: one of them at most has written anything,
and the stores are as if it had been alone. -/
structure OneWinner (w v : World) (name : String) (calls : ι → ServiceCall)
    (turns : List (Dialogue.Turn ι World)) (results : ι → Outcome ServiceReply)
    (winner : Option ι) : Prop where
  /-- All others write neither a record nor a secret. -/
  spared : ∀ turn ∈ turns, winner ≠ some turn.who → Spared turn
  /-- All others fail. -/
  failed : ∀ i, winner ≠ some i → (results i).isOk = false
  /-- The record is that of the winner. -/
  record : v.catalog.records.get? name =
    winner.bind fun i => (calls i).creation?.map Creation.record
  /-- The secret is that of the winner. -/
  secret : v.secrets.records.get? name =
    winner.bind fun i => (calls i).creation?.bind Creation.secret
  /-- Nothing else has changed. -/
  others : ∀ other ≠ name, v.catalog.records.get? other = w.catalog.records.get? other ∧
    v.secrets.records.get? other = w.secrets.records.get? other

/-- Whether every one of some calls creates a definition of a name. -/
def AllCreate (name : String) (calls : ι → ServiceCall) : Prop :=
  ∀ i, ∃ c, (calls i).creation? = some c ∧ c.name = name

/-- Of creations under one free name that go on in any order at most one writes: the stores are as
they were and all have failed, or they are as one of the creations leaves them alone. -/
theorem crowd_of_creations (hholds : w.StoresHold) (hcreate : AllCreate name calls)
    (hfree : w.catalog.records.get? name = none)
    (hcrowd : Dialogue.Crowd answer (fun i => (calls i).procedure config) w turns results v) :
    w.SameSetting v ∧
      (v.stores = w.stores ∧ (∀ i, (results i).isOk = false) ∧ (∀ turn ∈ turns, Spared turn) ∨
      ∃ winner, v.stores = (w.run ((calls winner).procedure config)).2.stores ∧ Taken name v.stores ∧
        (∀ i ≠ winner, (results i).isOk = false) ∧
        ∀ turn ∈ turns, turn.who ≠ winner → Spared turn) := by
  have hasks : ∀ i, ((calls i).procedure config).OnlyAsks fun r => ∀ due, r ≠ .sleepUntil due :=
    fun i => by
      obtain ⟨c, hc, -⟩ := hcreate i
      exact onlyAsks_creation config hc
  have hvies : ∀ i, w.ViesFor w.stores name ((calls i).procedure config) := fun i => by
    obtain ⟨c, hc, rfl⟩ := hcreate i
    exact viesFor_call hholds hc hfree
  obtain ⟨hseen, hsetting⟩ := hcrowd.of_view w.answer_eq_stores hasks ⟨rfl, rfl⟩
  have hspared : ∀ turn : Dialogue.Turn ι World,
      (turn.map stores).after = (turn.map stores).before → Spared turn := fun turn hsame =>
    ⟨congrArg Stores.catalog hsame, congrArg Stores.secrets hsame⟩
  refine ⟨hsetting, ?_⟩
  rcases hseen.contest hvies with ⟨hsame, hfailed, hturns⟩ | ⟨winner, hrun, htaken, hfailed, hturns⟩
  · exact .inl ⟨hsame, hfailed, fun turn hturn => hspared turn (hturns _ (List.mem_map_of_mem hturn))⟩
  · refine .inr ⟨winner, ?_, htaken, hfailed, fun turn hturn hother =>
      hspared turn (hturns _ (List.mem_map_of_mem hturn) hother)⟩
    obtain ⟨-, hview, -⟩ := Dialogue.run_of_view w.answer_eq_stores (hasks winner) ⟨rfl, rfl⟩
    exact (congrArg Prod.snd hrun).trans hview.symm

/-- A world that comes about from empty stores by events one after the other, and by creations under
a free name that go on in any order. -/
inductive Attained (config : EngineConfig) : World → Prop
  | start : Attained config {}
  | event {w : World} (before : Attained config w) (event : SessionEvent) :
    Attained config (w.step config event).2
  | crowd {w v : World} {ι : Type} [DecidableEq ι] {calls : ι → ServiceCall} {name : String}
    {turns : List (Dialogue.Turn ι World)} {results : ι → Outcome ServiceReply}
    (before : Attained config w) (create : AllCreate name calls)
    (free : w.catalog.records.get? name = none)
    (goOn : Dialogue.Crowd answer (fun i => (calls i).procedure config) w turns results v) :
    Attained config v

theorem SameSetting.storesHold (h : w.SameSetting v) (hholds : w.StoresHold) : v.StoresHold := by
  constructor
  · intro call
    rw [h.failing]
    exact hholds.catalog call
  · intro call
    rw [h.failing]
    exact hholds.secrets call

/-- In a world that is attained the stores hold, and secrets belong to definitions. -/
theorem Attained.holds (h : Attained config w) :
    w.StoresHold ∧ SecretsOwned w.catalog w.secrets := by
  induction h with
  | start => exact ⟨storesHold_after config [], .empty⟩
  | event before event ih =>
    exact ⟨storesHold_step ih.1 config event, secretsOwned_step ih.1 ih.2 config event⟩
  | @crowd w v ι _ calls name turns results before create free goOn ih =>
    obtain ⟨hsetting, hstores⟩ := crowd_of_creations ih.1 create free goOn
    refine ⟨hsetting.storesHold ih.1, ?_⟩
    rcases hstores with ⟨hsame, -⟩ | ⟨winner, hsame, -⟩
    · rw [show v.catalog = w.catalog from congrArg Stores.catalog hsame,
        show v.secrets = w.secrets from congrArg Stores.secrets hsame]
      exact ih.2
    · have howned := secretsOwned_step ih.1 ih.2 config (.call (calls winner))
      rw [show v.catalog = _ from congrArg Stores.catalog hsame,
        show v.secrets = _ from congrArg Stores.secrets hsame]
      exact howned

/-- Calls one after the other attain their world. -/
theorem attained_after (config : EngineConfig) (events : List SessionEvent) :
    Attained config (World.after config {} events) :=
  after_of_step (P := Attained config) (fun _ event h => h.event event) .start events

/-- Any number of creations of runners and tasks under one free name, put to a service in any world
that is attained and going on in any order, have one winner at most: all others fail and write
nothing, and in the end the record and the secret of the name are the winner's own, and nothing else
has changed. -/
theorem one_winner (hw : Attained config w) (hcreate : AllCreate name calls)
    (hfree : w.catalog.records.get? name = none)
    (hcrowd : Dialogue.Crowd answer (fun i => (calls i).procedure config) w turns results v) :
    ∃ winner, OneWinner w v name calls turns results winner := by
  obtain ⟨hholds, howned⟩ := hw.holds
  have hbare : w.secrets.records.get? name = none := by
    by_contra hsome
    obtain ⟨secret, hsecret⟩ := Option.ne_none_iff_exists'.mp hsome
    have htaken := howned.owner name secret hsecret
    rw [Dict.contains_eq_false_iff.mpr hfree] at htaken
    cases htaken
  obtain ⟨-, hstores⟩ := crowd_of_creations hholds hcreate hfree hcrowd
  rcases hstores with ⟨hsame, hfailed, hturns⟩ | ⟨winner, hsame, htaken, hfailed, hturns⟩
  · have hcatalog : v.catalog = w.catalog := congrArg Stores.catalog hsame
    have hsecrets : v.secrets = w.secrets := congrArg Stores.secrets hsame
    refine ⟨none, fun turn hturn _ => hturns turn hturn, fun i _ => hfailed i, ?_, ?_, ?_⟩
    · rw [hcatalog, hfree]
      rfl
    · rw [hsecrets, hbare]
      rfl
    · rw [hcatalog, hsecrets]
      exact fun _ _ => ⟨rfl, rfl⟩
  · obtain ⟨c, hc, rfl⟩ := hcreate winner
    have hedits : w.Edits False (calls winner) ((calls winner).procedure config) :=
      edits_call config (calls winner)
    have hedited := hedits _ _ (runs_run hholds _)
    rw [hsame] at htaken
    obtain ⟨hcatalog, hsecrets⟩ := hedited.of_creation hc hfree htaken
    have hcatalog' : v.catalog = w.catalog.written c.name c.record :=
      (congrArg Stores.catalog hsame).trans hcatalog
    have hsecrets' : v.secrets = w.secrets.mergeSecret c.name c.submitted :=
      (congrArg Stores.secrets hsame).trans hsecrets
    refine ⟨some winner, fun turn hturn hother => hturns turn hturn fun hwho =>
        hother (congrArg some hwho.symm), fun i hother => hfailed i fun hwho =>
        hother (congrArg some hwho.symm), ?_, ?_, fun other hother => ?_⟩
    · rw [hcatalog']
      simp [hc, RecordStore.written]
    · rw [hsecrets', RecordStore.get?_mergeSecret (by simp [hbare]), RecordStore.mergedSecret, hbare]
      simp [hc, Creation.secret]
    · rw [hcatalog', hsecrets', RecordStore.get?_mergeSecret_of_ne hother]
      simp [RecordStore.written, hother.symm]

/-- A second task of the name of the chime, with a secret. -/
def knell : ServiceCall := .createTask ⟨"carol", "local"⟩
  { name := "chime", runner := "shell", command := "date", synchronous := false
    schema := none, secret := some (Dict.ofList [("bell", "low")]) }

/-- Two tasks and a runner that are created under one name. -/
def ringing : Fin 3 → ServiceCall
  | 0 => chime
  | 1 => belfry
  | 2 => knell

/-- Both tasks have found their runner when the runner of their own name is written. -/
def belfryFirst : List (Fin 3) :=
  [0, 2, 1, 0, 1, 2, 1, 2, 0, 1, 1, 1, 1, 1, 1]

/-- What they come to in that order. -/
def rung : (Fin 3 → Procedure ServiceReply) × World :=
  Dialogue.play answer belfryFirst (fun i => (ringing i).procedure .standard)
    (World.after .standard {} greeting)

/-- In the end all three are over, and the record and the token of the runner are what is left. -/
theorem rung_over :
    (∀ i, (rung.1 i).result?.isSome = true) ∧
      rung.2.catalog.records.get? "chime" = belfry.creation?.map Creation.record ∧
      rung.2.secrets.records.get? "chime" = some (Dict.ofList [(Runner.tokenKey, "ghp")]) := by
  decide +kernel

/-- Of two tasks and a runner that are created under one name the runner wins. -/
theorem one_winner_belfry :
    ∃ turns results winner,
      Dialogue.Crowd answer (fun i => (ringing i).procedure .standard)
        (World.after .standard {} greeting) turns results rung.2 ∧
      OneWinner (World.after .standard {} greeting) rung.2 "chime" ringing turns results winner ∧
      rung.2.catalog.records.get? "chime" = belfry.creation?.map Creation.record := by
  have hresults : ∀ i, (rung.1 i).result? = some ((rung.1 i).result?.getD (.ok .done)) := by
    intro i
    obtain ⟨result, hresult⟩ := Option.isSome_iff_exists.mp (rung_over.1 i)
    rw [hresult]
    rfl
  obtain ⟨turns, hcrowd⟩ := Dialogue.crowd_play hresults
  have hcreate : AllCreate "chime" ringing
    | 0 => ⟨_, rfl, rfl⟩
    | 1 => ⟨_, rfl, rfl⟩
    | 2 => ⟨_, rfl, rfl⟩
  have hfree : (World.after .standard {} greeting).catalog.records.get? "chime" = none := by
    decide +kernel
  obtain ⟨winner, hwinner⟩ :=
    one_winner (attained_after .standard greeting) hcreate hfree hcrowd
  exact ⟨turns, _, winner, hcrowd, hwinner, rung_over.2.1⟩

end World

end TaskEngine
