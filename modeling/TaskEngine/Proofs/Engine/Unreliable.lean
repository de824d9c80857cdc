import TaskEngine.Proofs.Engine.Changes

/-!
# Runs over unreliable stores

Over unreliable stores any call on the catalog or on the secret store may be refused for a reason of
the infrastructure, and then has no effect. What a procedure ensures is settled along its steps:
there is one rule for every way to put procedures together, and one for every request.
-/

namespace TaskEngine

open Engine

/-- Whether a request is a call on the catalog or on the secret store. -/
def Request.OnStores : Request → Prop
  | .catalog _ | .secrets _ => True
  | _ => False

namespace World

/-- A reply to a request, with the world after it. -/
inductive Replies (unreliable : Prop) (w : World) : (r : Request) → r.Reply → World → Prop
  /-- The catalog answers. -/
  | catalog (call : CatalogCall) :
    Replies unreliable w (.catalog call) (w.catalog.answerCatalog call).1
      { w with catalog := (w.catalog.answerCatalog call).2 }
  /-- The secret store answers. -/
  | secrets (call : SecretCall) :
    Replies unreliable w (.secrets call) (w.secrets.answerSecrets call).1
      { w with secrets := (w.secrets.answerSecrets call).2 }
  /-- Everything else answers as it does. -/
  | other (r : Request) (h : ¬ r.OnStores) :
    Replies unreliable w r (World.answer r w).1 (World.answer r w).2
  /-- The catalog refuses a call. -/
  | refusedCatalog (call : CatalogCall) (message : String) (caused : Bool) (h : unreliable) :
    Replies unreliable w (.catalog call) (.error (.infrastructure message caused)) w
  /-- The secret store refuses a call. -/
  | refusedSecrets (call : SecretCall) (message : String) (caused : Bool) (h : unreliable) :
    Replies unreliable w (.secrets call) (.error (.infrastructure message caused)) w

/-- A run of a procedure: its outcome, and the world after it. -/
inductive Runs (unreliable : Prop) {α : Type} :
    World → Procedure α → Outcome α → World → Prop
  | done (w : World) (result : Outcome α) : Runs unreliable w (.done result) result w
  | ask {w u v : World} {r : Request} {next : r.Reply → Procedure α} {reply : r.Reply}
    {result : Outcome α} (first : w.Replies unreliable r reply u)
    (rest : Runs unreliable u (next reply) result v) :
    Runs unreliable w (.ask r next) result v

variable {unreliable : Prop} {α β : Type} {w : World}

/-- Where the stores hold, they answer every request. -/
theorem replies_answer (h : w.StoresHold) (r : Request) :
    w.Replies unreliable r (answer r w).1 (answer r w).2 := by
  cases r with
  | catalog call =>
    simp only [answer, guarded, List.contains_iff_mem, h.catalog call, if_false]
    exact .catalog call
  | secrets call =>
    simp only [answer, guarded, List.contains_iff_mem, h.secrets call, if_false]
    exact .secrets call
  | workloads call => exact .other (.workloads call) id
  | record entry => exact .other (.record entry) id
  | count metric => exact .other (.count metric) id
  | clock => exact .other .clock id
  | sleepUntil due => exact .other (.sleepUntil due) id

/-- A call that is made to fail is refused. -/
theorem replies_answer_of_unreliable (h : unreliable) (w : World) (r : Request) :
    w.Replies unreliable r (answer r w).1 (answer r w).2 := by
  cases r with
  | catalog call =>
    simp only [answer, guarded]
    split
    · exact .refusedCatalog call _ _ h
    · exact .catalog call
  | secrets call =>
    simp only [answer, guarded]
    split
    · exact .refusedSecrets call _ _ h
    · exact .secrets call
  | workloads call => exact .other (.workloads call) id
  | record entry => exact .other (.record entry) id
  | count metric => exact .other (.count metric) id
  | clock => exact .other .clock id
  | sleepUntil due => exact .other (.sleepUntil due) id

/-- Over stores that hold, the run in memory is a run. -/
theorem runs_run (h : w.StoresHold) (p : Procedure α) :
    w.Runs unreliable p (w.run p).1 (w.run p).2 := by
  induction p generalizing w with
  | done result => exact .done w result
  | ask r next ih =>
    have hsame := failing_answer r w
    exact .ask (replies_answer h r)
      (ih _ ⟨fun call => hsame ▸ h.catalog call, fun call => hsame ▸ h.secrets call⟩)

/-- A run in memory with calls that are made to fail is a run over unreliable stores. -/
theorem runs_run_of_unreliable (h : unreliable) (w : World) (p : Procedure α) :
    w.Runs unreliable p (w.run p).1 (w.run p).2 := by
  induction p generalizing w with
  | done result => exact .done w result
  | ask r next ih => exact .ask (replies_answer_of_unreliable h w r) (ih _ _)

/-! ## What all runs ensure -/

/-- Whether all runs of a procedure end in such an outcome and such a world. -/
def Ensures (unreliable : Prop) (w : World) (p : Procedure α) (Q : Outcome α → World → Prop) :
    Prop :=
  ∀ result v, w.Runs unreliable p result v → Q result v

/-- Whether a procedure leaves everything as it is, and what a success of it tells. -/
abbrev Looks (unreliable : Prop) (w : World) (p : Procedure α) (R : α → Prop) : Prop :=
  w.Ensures unreliable p fun result v => v = w ∧ ∀ a, result = .ok a → R a

variable {p : Procedure α} {Q : Outcome α → World → Prop} {R : α → Prop}

theorem Ensures.mono {P : Outcome α → World → Prop} (h : w.Ensures unreliable p P)
    (himp : ∀ result v, P result v → Q result v) : w.Ensures unreliable p Q :=
  fun result v hrun => himp result v (h result v hrun)

theorem ensures_done {result : Outcome α} (h : Q result w) :
    w.Ensures unreliable (.done result) Q := by
  intro result v hrun
  cases hrun
  exact h

theorem ensures_pure {a : α} (h : Q (.ok a) w) : w.Ensures unreliable (pure a) Q := ensures_done h

theorem ensures_ask {r : Request} {next : r.Reply → Procedure α}
    (h : ∀ reply u, w.Replies unreliable r reply u → u.Ensures unreliable (next reply) Q) :
    w.Ensures unreliable (.ask r next) Q := by
  intro result v hrun
  cases hrun with
  | ask first rest => exact h _ _ first result v rest

/-- What is ensured of a procedure and of what follows it, whatever its outcome, is ensured of both
one after the other. -/
theorem Ensures.followedBy {next : Outcome α → Procedure β} {Q : Outcome β → World → Prop}
    (h : w.Ensures unreliable p fun result u => u.Ensures unreliable (next result) Q) :
    w.Ensures unreliable (p.followedBy next) Q := by
  induction p generalizing w with
  | done result => exact h result w (.done w result)
  | ask r go ih =>
    refine ensures_ask fun reply u hreply => ih reply fun result v hrun => ?_
    exact h result v (.ask hreply hrun)

theorem Ensures.bind {P : Outcome α → World → Prop} {next : α → Procedure β}
    {Q : Outcome β → World → Prop} (hfirst : w.Ensures unreliable p P)
    (hok : ∀ a u, P (.ok a) u → u.Ensures unreliable (next a) Q)
    (herror : ∀ e u, P (.error e) u → Q (.error e) u) :
    w.Ensures unreliable (p >>= next) Q := by
  refine Ensures.followedBy (hfirst.mono fun result u hP => ?_)
  cases result with
  | ok a => exact hok a u hP
  | error e => exact ensures_done (herror e u hP)

theorem Ensures.map {f : α → β} {Q : Outcome β → World → Prop}
    (h : w.Ensures unreliable p fun result v => Q (result.map f) v) :
    w.Ensures unreliable (f <$> p) Q :=
  .bind h (fun _ _ hQ => ensures_pure hQ) fun _ _ hQ => hQ

theorem Ensures.attempt {Q : Outcome (Outcome α) → World → Prop}
    (h : w.Ensures unreliable p fun result v => Q (.ok result) v) :
    w.Ensures unreliable p.attempt Q :=
  .followedBy (h.mono fun _ _ hQ => ensures_done hQ)

/-- An audit entry is all that an audit adds. -/
theorem Ensures.audited
    (h : w.Ensures unreliable p fun result v => ∀ audit, Q result { v with audit })
    (principal : Principal) (action : AuditAction) (category : ResourceKind) (target : String) :
    w.Ensures unreliable (Procedure.audited principal action category target p) Q := by
  refine .followedBy (h.mono fun result v hQ => ensures_ask fun reply u hreply => ?_)
  cases hreply
  exact ensures_done (hQ _)

/-- What follows a look starts from the same world. -/
theorem Ensures.bind_looks {next : α → Procedure β} {Q : Outcome β → World → Prop}
    (hlooks : w.Looks unreliable p R) (hok : ∀ a, R a → w.Ensures unreliable (next a) Q)
    (herror : ∀ e, Q (.error e) w) : w.Ensures unreliable (p >>= next) Q := by
  refine .bind hlooks (fun a u hP => ?_) fun e u hP => ?_
  · obtain ⟨rfl, htells⟩ := hP
    exact hok a (htells a rfl)
  · obtain ⟨rfl, -⟩ := hP
    exact herror e

/-- A result that is taken over counts as a look. -/
theorem looks_lift (result : Outcome α) :
    w.Looks unreliable (Dialogue.lift result) fun a => result = .ok a :=
  ensures_done ⟨rfl, fun _ h => h⟩

theorem Looks.bind {next : α → Procedure β} {S : β → Prop} (hfirst : w.Looks unreliable p R)
    (hnext : ∀ a, R a → w.Looks unreliable (next a) S) : w.Looks unreliable (p >>= next) S :=
  .bind_looks hfirst hnext fun _ => ⟨rfl, fun _ h => by cases h⟩

/-! ## Calls on the stores -/

/-- A call on the catalog is answered or refused. -/
theorem ensures_catalog (call : CatalogCall) :
    w.Ensures unreliable (Procedure.catalog call) fun result v =>
      (result = (w.catalog.answerCatalog call).1 ∧
        v = { w with catalog := (w.catalog.answerCatalog call).2 }) ∨
      unreliable ∧ result.isOk = false ∧ v = w := by
  refine ensures_ask fun reply u hreply => ?_
  cases hreply with
  | catalog => exact ensures_done (.inl ⟨rfl, rfl⟩)
  | other r h => exact (h trivial).elim
  | refusedCatalog call message caused h => exact ensures_done (.inr ⟨h, rfl, rfl⟩)

/-- A call on the secret store is answered or refused. -/
theorem ensures_secrets (call : SecretCall) :
    w.Ensures unreliable (Procedure.secrets call) fun result v =>
      (result = (w.secrets.answerSecrets call).1 ∧
        v = { w with secrets := (w.secrets.answerSecrets call).2 }) ∨
      unreliable ∧ result.isOk = false ∧ v = w := by
  refine ensures_ask fun reply u hreply => ?_
  cases hreply with
  | secrets => exact ensures_done (.inl ⟨rfl, rfl⟩)
  | other r h => exact (h trivial).elim
  | refusedSecrets call message caused h => exact ensures_done (.inr ⟨h, rfl, rfl⟩)

/-- A call that leaves everything as it is, whether it is answered or refused, is a look. -/
theorem looks_of_answer {a : α}
    (h : w.Ensures unreliable p fun result v =>
      (result = .ok a ∧ v = w) ∨ unreliable ∧ result.isOk = false ∧ v = w) :
    w.Looks unreliable p (a = ·) := by
  refine h.mono fun result v h => ?_
  rcases h with ⟨rfl, rfl⟩ | ⟨-, herror, rfl⟩
  · exact ⟨rfl, fun b hb => Except.ok.inj hb⟩
  · exact ⟨rfl, fun b hb => by rw [hb] at herror; cases herror⟩

theorem looks_catalog_get (name : String) :
    w.Looks unreliable (Procedure.catalog (.get name)) (w.catalog.records.get? name = ·) :=
  looks_of_answer (ensures_catalog (.get name))

theorem looks_catalog_list :
    w.Looks unreliable (Procedure.catalog .list) (w.catalog.records.toList = ·) :=
  looks_of_answer (ensures_catalog .list)

theorem looks_secrets_get (name : String) :
    w.Looks unreliable (Procedure.secrets (.get name)) (w.secrets.records.get? name = ·) :=
  looks_of_answer (ensures_secrets (.get name))

/-- A record is written if the mode allows it. -/
theorem ensures_catalog_put (name : String) (record : Record) (mode : WriteMode) :
    w.Ensures unreliable (Procedure.catalog (.put name record mode)) fun result v =>
      (mode.demand CatalogCall.resource name (w.catalog.records.contains name) = .ok () ∧
        result.isOk = true ∧ v = { w with catalog := w.catalog.written name record }) ∨
      result.isOk = false ∧ v = w := by
  refine (ensures_catalog (.put name record mode)).mono fun result v h => ?_
  rcases h with ⟨rfl, rfl⟩ | ⟨-, herror, rfl⟩
  · simp only [RecordStore.answerCatalog, RecordStore.put_eq]
    cases mode.demand CatalogCall.resource name (w.catalog.records.contains name) with
    | ok u => exact .inl ⟨rfl, rfl, rfl⟩
    | error e => exact .inr ⟨rfl, rfl⟩
  · exact .inr ⟨herror, rfl⟩

/-- A record that is there is removed. -/
theorem ensures_catalog_delete {name : String} {record : Record}
    (hget : w.catalog.records.get? name = some record) :
    w.Ensures unreliable (Procedure.catalog (.delete name)) fun result v =>
      (result = .ok () ∧
        v = { w with catalog := { w.catalog with records := w.catalog.records.erase name } }) ∨
      result.isOk = false ∧ v = w := by
  refine (ensures_catalog (.delete name)).mono fun result v h => ?_
  rcases h with ⟨rfl, rfl⟩ | ⟨-, herror, rfl⟩
  · rw [RecordStore.answerCatalog, if_pos (Dict.contains_iff.mpr ⟨record, hget⟩)]
    exact .inl ⟨rfl, rfl⟩
  · exact .inr ⟨herror, rfl⟩

/-- The outcome and the world after a change to the secrets, unless the store has refused. -/
def SecretsBecome (unreliable : Prop) (w : World) (secrets : RecordStore) (result : Outcome α)
    (v : World) : Prop :=
  (result.isOk = true ∧ v = { w with secrets }) ∨ unreliable ∧ result.isOk = false ∧ v = w

/-- A success has changed the secrets. -/
theorem SecretsBecome.eq_of_ok {secrets : RecordStore} {a : α} {v : World}
    (h : w.SecretsBecome unreliable secrets (.ok a) v) : v = { w with secrets } :=
  (h.resolve_right fun hrefused => by cases hrefused.2.1).2

/-- A failure has changed nothing, and is the store's. -/
theorem SecretsBecome.eq_of_error {secrets : RecordStore} {e : EngineError} {v : World}
    (h : w.SecretsBecome unreliable secrets (.error e : Outcome α) v) : unreliable ∧ v = w := by
  have hrefused := h.resolve_left fun hanswered => by cases hanswered.1
  exact ⟨hrefused.1, hrefused.2.2⟩

theorem ensures_secrets_delete (name : String) :
    w.Ensures unreliable (Procedure.secrets (.delete name))
      (w.SecretsBecome unreliable (w.secrets.removeSecret name)) := by
  refine (ensures_secrets (.delete name)).mono fun result v h => h.imp_left fun ⟨hresult, hv⟩ => ?_
  subst hresult hv
  simp only [RecordStore.answerSecrets, RecordStore.removeSecret]
  split <;> exact ⟨rfl, rfl⟩

theorem ensures_secrets_put {name : String} {secret : Record} {mode : WriteMode}
    (hmode : mode.demand SecretCall.resource name (w.secrets.records.contains name) = .ok ()) :
    w.Ensures unreliable (Procedure.secrets (.put name secret mode))
      (w.SecretsBecome unreliable (w.secrets.written name secret)) := by
  refine (ensures_secrets (.put name secret mode)).mono fun result v h =>
    h.imp_left fun ⟨hresult, hv⟩ => ?_
  subst hresult hv
  rw [RecordStore.answerSecrets, RecordStore.put_eq, hmode]
  exact ⟨rfl, rfl⟩

/-- A change to the secrets with something to report in the end. -/
theorem ensures_report {secrets : RecordStore}
    (h : w.Ensures unreliable p (w.SecretsBecome unreliable secrets)) (b : β) :
    w.Ensures unreliable (p >>= fun _ => pure b) (w.SecretsBecome unreliable secrets) := by
  exact .bind h (fun a u hu => ensures_pure (.inl ⟨rfl, hu.eq_of_ok⟩)) fun e u hu => hu

/-- An update of a secret merges it, unless the store refuses. -/
theorem ensures_applySecret (name : String) (desired : Record) :
    w.Ensures unreliable (applySecret name desired)
      (w.SecretsBecome unreliable (w.secrets.mergeSecret name desired)) := by
  have hunchanged {outcome : Secret.UpdateOutcome} : w.Ensures unreliable (pure outcome)
      (w.SecretsBecome unreliable w.secrets) := ensures_pure (.inl ⟨rfl, rfl⟩)
  refine .bind (ensures_secrets (.get name)) (fun current u h => ?_) fun e u h => ?_
  · obtain ⟨hcurrent, rfl⟩ := h.resolve_right fun hfailed => by cases hfailed.2.1
    obtain hcurrent : w.secrets.records.get? name = current := (Except.ok.inj hcurrent).symm
    change w.Ensures unreliable _ _
    simp only [RecordStore.mergeSecret, RecordStore.mergedSecret, hcurrent]
    cases current with
    | none =>
      simp only
      split
      · exact hunchanged
      · refine ensures_report (ensures_secrets_put ?_) _
        rw [Dict.contains_eq_false_iff.mpr hcurrent]
        rfl
    | some stored =>
      have htaken := Dict.contains_iff.mpr ⟨stored, hcurrent⟩
      simp only
      split
      · exact hunchanged
      · split
        · have hremoved : w.Ensures unreliable _ _ := ensures_secrets_delete name
          rw [RecordStore.removeSecret, if_pos htaken] at hremoved
          exact ensures_report hremoved _
        · refine ensures_report (ensures_secrets_put ?_) _
          rw [htaken]
          rfl
  · exact .inr (h.resolve_left fun hanswered => by cases hanswered.1)

/-! ## Loads -/

theorem looks_loadTask (name : String) :
    w.Looks unreliable (loadTask name) (w.taskNamed name = .ok ·) := by
  refine (looks_catalog_get name).bind fun found hfound => ?_
  rw [taskNamed, hfound]
  cases found with
  | none => exact looks_lift (.error _)
  | some record =>
    cases hrecord : Task.isRecord record <;> simp only [hrecord] <;> exact looks_lift _

theorem looks_loadRunner (name : String) :
    w.Looks unreliable (loadRunner name) (w.runnerNamed name = .ok ·) := by
  refine (looks_catalog_get name).bind fun found hfound => ?_
  rw [runnerNamed, hfound]
  cases found with
  | none => exact looks_lift (.error _)
  | some record =>
    cases hrecord : Runner.isRecord record with
    | true => simp only [hrecord]; exact looks_lift (.ok _)
    | false => simp only [hrecord]; exact looks_lift (.error _)

theorem looks_ownerKind (name : String) :
    w.Looks unreliable (ownerKind name) (w.ownerOf name = .ok ·) := by
  refine (looks_catalog_get name).bind fun found hfound => ?_
  rw [ownerOf, hfound]
  cases found with
  | none => exact looks_lift (.error _)
  | some record =>
    cases hrunner : Runner.isRecord record with
    | true => simp only [hrunner]; exact looks_lift (.ok _)
    | false =>
      cases htask : Task.isRecord record with
      | true => simp only [hrunner, htask]; exact looks_lift (.ok _)
      | false => simp only [hrunner, htask]; exact looks_lift (.error _)

theorem looks_redactedSecret (name : String) :
    w.Looks unreliable (redactedSecret name) fun _ => True :=
  (looks_secrets_get name).bind fun _ _ => ensures_pure ⟨rfl, fun _ _ => trivial⟩

theorem looks_getRunner (name : String) :
    w.Looks unreliable (getRunner name) fun _ => True := by
  refine (looks_loadRunner name).bind fun r _ => (looks_secrets_get name).bind fun secret _ => ?_
  split <;> exact ensures_pure ⟨rfl, fun _ _ => trivial⟩

theorem looks_getTask (name : String) : w.Looks unreliable (getTask name) fun _ => True :=
  (looks_loadTask name).bind fun _ _ => (looks_redactedSecret name).bind fun _ _ =>
    ensures_pure ⟨rfl, fun _ _ => trivial⟩

/-- A listing of scheduled jobs leaves everything as it is. -/
theorem looks_listCronJobs (selector : String) :
    w.Looks unreliable (Procedure.workloads (.listCronJobs selector)) fun _ => True := by
  refine ensures_ask fun reply u hreply => ?_
  cases hreply
  exact ensures_done ⟨congrArg Prod.snd (w.run_listCronJobs selector), fun _ _ => trivial⟩

/-- A listing of deployments leaves everything as it is. -/
theorem looks_listDeployments (selector : String) :
    w.Looks unreliable (Procedure.workloads (.listDeployments selector)) fun _ => True := by
  refine ensures_ask fun reply u hreply => ?_
  cases hreply
  exact ensures_done ⟨congrArg Prod.snd (w.run_listDeployments selector), fun _ _ => trivial⟩

end World

end TaskEngine
