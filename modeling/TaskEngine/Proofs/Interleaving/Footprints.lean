import TaskEngine.Proofs.Interleaving.Races

/-!
# Footprints

What a procedure does to definitions and secrets, it does under one name: the record and the secret
of that name are all it writes, and nearly all it looks at. Requests about different names can
change places. A procedure may besides look once at the whole catalog; what counts is how much of a
record it sees there. Of two procedures about different names one has to be blind to what the other
does, and their race is as good as a serial order.
-/

namespace TaskEngine

/-! ## Requests but for one -/

namespace Dialogue

variable {Request : Type} {Reply : Request → Type} {α β : Type} {allowed other : Request → Prop}
  {alike : (r : Request) → Reply r → Reply r → Prop}

/-- Whatever the replies are, only allowed requests are put, but for at most one other; how it goes
on after that one is the same for replies that are alike. -/
def OnceAsks (allowed other : Request → Prop) (alike : (r : Request) → Reply r → Reply r → Prop) :
    Dialogue Request Reply α → Prop
  | .done _ => True
  | .ask r next =>
    (allowed r ∧ ∀ reply, (next reply).OnceAsks allowed other alike) ∨
      other r ∧ (∀ a b, alike r a b → next a = next b) ∧
        ∀ reply, (next reply).OnlyAsks allowed

/-- Any request is one of the allowed or the other. -/
theorem OnceAsks.onlyAsks {d : Dialogue Request Reply α} (h : d.OnceAsks allowed other alike) :
    d.OnlyAsks fun r => allowed r ∨ other r := by
  induction d with
  | done result => trivial
  | ask r next ih =>
    rcases h with ⟨hr, hnext⟩ | ⟨hr, -, hnext⟩
    · exact ⟨.inl hr, fun reply => ih reply (hnext reply)⟩
    · exact ⟨.inr hr, fun reply => (hnext reply).mono fun _ => .inl⟩

/-- No other request is one less than one. -/
theorem OnlyAsks.once {d : Dialogue Request Reply α} (h : d.OnlyAsks allowed) :
    d.OnceAsks allowed other alike := by
  induction d with
  | done result => trivial
  | ask r next ih => exact .inl ⟨h.1, fun reply => ih reply (h.2 reply)⟩

/-- The other request comes later. -/
theorem OnlyAsks.followedBy_once {d : Dialogue Request Reply α}
    {next : Outcome α → Dialogue Request Reply β} (h : d.OnlyAsks allowed)
    (hnext : ∀ result, (next result).OnceAsks allowed other alike) :
    (d.followedBy next).OnceAsks allowed other alike := by
  induction d with
  | done result => exact hnext result
  | ask r go ih => exact .inl ⟨h.1, fun reply => ih reply (h.2 reply)⟩

theorem OnlyAsks.bind_once {d : Dialogue Request Reply α} {next : α → Dialogue Request Reply β}
    (h : d.OnlyAsks allowed) (hnext : ∀ a, (next a).OnceAsks allowed other alike) :
    (d >>= next).OnceAsks allowed other alike := by
  refine h.followedBy_once fun result => ?_
  cases result with
  | ok a => exact hnext a
  | error e => trivial

/-- The other request came before. -/
theorem OnceAsks.followedBy {d : Dialogue Request Reply α}
    {next : Outcome α → Dialogue Request Reply β} (h : d.OnceAsks allowed other alike)
    (hnext : ∀ result, (next result).OnlyAsks allowed) :
    (d.followedBy next).OnceAsks allowed other alike := by
  induction d with
  | done result => exact (hnext result).once
  | ask r go ih =>
    rcases h with ⟨hr, hgo⟩ | ⟨hr, halike, hgo⟩
    · exact .inl ⟨hr, fun reply => ih reply (hgo reply)⟩
    · exact .inr ⟨hr, fun a b hab => congrArg (Dialogue.followedBy · next) (halike a b hab),
        fun reply => (hgo reply).followedBy hnext⟩

theorem OnceAsks.bind {d : Dialogue Request Reply α} {next : α → Dialogue Request Reply β}
    (h : d.OnceAsks allowed other alike) (hnext : ∀ a, (next a).OnlyAsks allowed) :
    (d >>= next).OnceAsks allowed other alike := by
  refine h.followedBy fun result => ?_
  cases result with
  | ok a => exact hnext a
  | error e => trivial

theorem OnceAsks.map {d : Dialogue Request Reply α} (h : d.OnceAsks allowed other alike)
    (f : α → β) : (f <$> d).OnceAsks allowed other alike :=
  h.bind fun a => OnlyAsks.pure (f a)

end Dialogue

/-! ## Definitions and secrets -/

/-- The records of the catalog and those of the secret store. -/
structure Definitions where
  catalog : Dict Record
  secrets : Dict Record
  deriving DecidableEq

namespace Definitions

/-- What stands under a name: its record and its secret. -/
def under (d : Definitions) (name : String) : Option Record × Option Record :=
  (d.catalog.get? name, d.secrets.get? name)

variable {d e : Definitions}

/-- There is nothing but what stands under names. -/
theorem ext_under (h : ∀ name, d.under name = e.under name) : d = e := by
  obtain ⟨catalog, secrets⟩ := d
  obtain ⟨catalog', secrets'⟩ := e
  have hcatalog : catalog = catalog' := Dict.ext_get? fun name => congrArg Prod.fst (h name)
  have hsecrets : secrets = secrets' := Dict.ext_get? fun name => congrArg Prod.snd (h name)
  rw [hcatalog, hsecrets]

end Definitions

/-- What is kept of runners, tasks and secrets. -/
def World.definitions (w : World) : Definitions := ⟨w.catalog.records, w.secrets.records⟩

/-- Answer a request about definitions and secrets; what else is asked for is as it is in the
world. -/
def World.answerDefinitions (w : World) : (r : Request) → Definitions → r.Reply × Definitions
  | .catalog call, d =>
    let (reply, catalog) := RecordStore.answerCatalog call { records := d.catalog }
    (reply, { d with catalog := catalog.records })
  | .secrets call, d =>
    let (reply, secrets) := RecordStore.answerSecrets call { records := d.secrets }
    (reply, { d with secrets := secrets.records })
  | r, d => ((w.answer r).1, d)

namespace Request

/-- Whether a request is about one name, and leaves there only such a record as `leaves` says. -/
def Own (name : String) (leaves : Option Record → Prop) : Request → Prop
  | .catalog (.get n) => n = name
  | .catalog (.put n written _) => n = name ∧ leaves (some written)
  | .catalog (.delete n) => n = name ∧ leaves none
  | .secrets (.get n) | .secrets (.put n _ _) | .secrets (.delete n) => n = name
  | .record _ | .workloads (.listCronJobs _) | .workloads (.listDeployments _) => True
  | _ => False

/-- Whether a request looks at the catalog. -/
def LooksUp : Request → Prop
  | .catalog (.get _) | .catalog .list => True
  | _ => False

/-- Whether a request writes or removes a record. -/
def Commits : Request → Prop
  | .catalog (.put ..) | .catalog (.delete _) => True
  | _ => False

end Request

namespace World

variable {w : World} {r r' : Request} {name other : String} {leaves leaves' : Option Record → Prop}
  {d e : Definitions}

/-- What is kept of definitions and secrets decides about the answers, not how often it was
written. -/
theorem answerCatalog_records (s : RecordStore) (call : CatalogCall) :
    (s.answerCatalog call).1 = (RecordStore.answerCatalog call { records := s.records }).1 ∧
      (s.answerCatalog call).2.records =
        (RecordStore.answerCatalog call { records := s.records }).2.records := by
  cases call with
  | put n record mode =>
    simp only [RecordStore.answerCatalog, RecordStore.put_eq]
    cases mode.demand CatalogCall.resource n (s.records.contains n) <;> exact ⟨rfl, rfl⟩
  | delete n =>
    simp only [RecordStore.answerCatalog]
    split <;> exact ⟨rfl, rfl⟩
  | _ => exact ⟨rfl, rfl⟩

theorem answerSecrets_records (s : RecordStore) (call : SecretCall) :
    (s.answerSecrets call).1 = (RecordStore.answerSecrets call { records := s.records }).1 ∧
      (s.answerSecrets call).2.records =
        (RecordStore.answerSecrets call { records := s.records }).2.records := by
  cases call with
  | put n record mode =>
    simp only [RecordStore.answerSecrets, RecordStore.put_eq]
    cases mode.demand SecretCall.resource n (s.records.contains n) <;> exact ⟨rfl, rfl⟩
  | delete n =>
    simp only [RecordStore.answerSecrets]
    split <;> exact ⟨rfl, rfl⟩
  | _ => exact ⟨rfl, rfl⟩

/-- A world whose stores hold, and which differs from another one in definitions, secrets and the
audit trail only. -/
structure Redefines (w v : World) : Prop where
  holds : v.StoresHold
  workloads : v.workloads = w.workloads
  failing : v.failing = w.failing
  now : v.now = w.now

/-- A world answers requests about definitions from what it keeps of them. -/
theorem answer_eq_definitions {w v : World} (hv : w.Redefines v) {r : Request}
    (h : r.Own name leaves ∨ r.LooksUp) :
    (answer r v).1 = (w.answerDefinitions r v.definitions).1 ∧
      (answer r v).2.definitions = (w.answerDefinitions r v.definitions).2 ∧
      w.Redefines (answer r v).2 := by
  cases r with
  | catalog call =>
    have hcalm : v.failing.contains call.name = false := by simpa using hv.holds.catalog call
    obtain ⟨hreply, hrecords⟩ := answerCatalog_records v.catalog call
    simp only [answer, guarded, hcalm, Bool.false_eq_true, if_false]
    refine ⟨hreply, ?_, ⟨⟨hv.holds.catalog, hv.holds.secrets⟩, hv.workloads, hv.failing, hv.now⟩⟩
    simp only [definitions, answerDefinitions, hrecords]
  | secrets call =>
    have hcalm : v.failing.contains call.name = false := by simpa using hv.holds.secrets call
    obtain ⟨hreply, hrecords⟩ := answerSecrets_records v.secrets call
    simp only [answer, guarded, hcalm, Bool.false_eq_true, if_false]
    refine ⟨hreply, ?_, ⟨⟨hv.holds.catalog, hv.holds.secrets⟩, hv.workloads, hv.failing, hv.now⟩⟩
    simp only [definitions, answerDefinitions, hrecords]
  | workloads call =>
    have hlist : (answer (.workloads call) v).2 = v := by
      cases call <;> first
        | exact (h.elim id id).elim
        | (simp only [answer, guarded]; split <;> rfl)
    refine ⟨?_, by rw [hlist]; rfl, by rw [hlist]; exact hv⟩
    simp only [answerDefinitions, answer, guarded, hv.workloads, hv.failing, hv.now]
    split <;> rfl
  | record entry =>
    exact ⟨rfl, rfl, ⟨hv.holds.catalog, hv.holds.secrets⟩, hv.workloads, hv.failing, hv.now⟩
  | count metric | clock | sleepUntil due => exact (h.elim id id).elim

/-! ## Requests about one name -/

theorem answerDefinitions_put (w : World) (d : Definitions) (name : String) (record : Record)
    (mode : WriteMode) :
    w.answerDefinitions (.catalog (.put name record mode)) d =
      match mode.demand CatalogCall.resource name (d.catalog.contains name) with
      | .ok () => (.ok record, { d with catalog := d.catalog.insert name record })
      | .error e => (.error e, d) := by
  simp only [answerDefinitions, RecordStore.answerCatalog, RecordStore.put_eq]
  cases mode.demand CatalogCall.resource name (d.catalog.contains name) <;> rfl

theorem answerDefinitions_delete (w : World) (d : Definitions) (name : String) :
    w.answerDefinitions (.catalog (.delete name)) d =
      if d.catalog.contains name then (.ok (), { d with catalog := d.catalog.erase name })
      else (.error (.notFound CatalogCall.resource name), d) := by
  simp only [answerDefinitions, RecordStore.answerCatalog]
  split <;> rfl

theorem answerDefinitions_putSecret (w : World) (d : Definitions) (name : String) (secret : Record)
    (mode : WriteMode) :
    w.answerDefinitions (.secrets (.put name secret mode)) d =
      match mode.demand SecretCall.resource name (d.secrets.contains name) with
      | .ok () => (.ok (), { d with secrets := d.secrets.insert name secret })
      | .error e => (.error e, d) := by
  simp only [answerDefinitions, RecordStore.answerSecrets, RecordStore.put_eq]
  cases mode.demand SecretCall.resource name (d.secrets.contains name) <;> rfl

theorem answerDefinitions_deleteSecret (w : World) (d : Definitions) (name : String) :
    w.answerDefinitions (.secrets (.delete name)) d =
      (.ok (), { d with secrets := d.secrets.erase name }) := by
  simp only [answerDefinitions, RecordStore.answerSecrets]
  split
  · rfl
  · rename_i hfree
    rw [Dict.erase_eq_self (Dict.contains_eq_false_iff.mp (by simpa using hfree))]

/-- What a request about one name comes to, there and in its answer, depends on nothing else. -/
theorem own_congr (w : World) (h : r.Own name leaves) (hsame : d.under name = e.under name) :
    (w.answerDefinitions r d).1 = (w.answerDefinitions r e).1 ∧
      (w.answerDefinitions r d).2.under name = (w.answerDefinitions r e).2.under name := by
  obtain ⟨hcatalog, hsecrets⟩ := Prod.mk.inj hsame
  have htaken : d.catalog.contains name = e.catalog.contains name := by
    rw [Dict.contains, hcatalog, Dict.contains]
  have hkept : d.secrets.contains name = e.secrets.contains name := by
    rw [Dict.contains, hsecrets, Dict.contains]
  cases r with
  | catalog call =>
    cases call with
    | get n =>
      cases h
      exact ⟨congrArg Except.ok hcatalog, hsame⟩
    | list => exact h.elim
    | put n written mode =>
      obtain ⟨rfl, -⟩ := h
      simp only [answerDefinitions_put, htaken]
      cases mode.demand CatalogCall.resource n (e.catalog.contains n) with
      | error failure => exact ⟨rfl, hsame⟩
      | ok u => exact ⟨rfl, by simp [Definitions.under, hsecrets]⟩
    | delete n =>
      obtain ⟨rfl, -⟩ := h
      simp only [answerDefinitions_delete, htaken]
      split
      · exact ⟨rfl, by simp [Definitions.under, hsecrets]⟩
      · exact ⟨rfl, hsame⟩
  | secrets call =>
    cases call with
    | get n =>
      cases h
      exact ⟨congrArg Except.ok hsecrets, hsame⟩
    | put n secret mode =>
      cases h
      simp only [answerDefinitions_putSecret, hkept]
      cases mode.demand SecretCall.resource name (e.secrets.contains name) with
      | error failure => exact ⟨rfl, hsame⟩
      | ok u => exact ⟨rfl, by simp [Definitions.under, hcatalog]⟩
    | delete n =>
      cases h
      simp only [answerDefinitions_deleteSecret]
      exact ⟨trivial, by simp [Definitions.under, hcatalog]⟩
  | record entry | workloads call => exact ⟨rfl, hsame⟩
  | count metric | clock | sleepUntil due => exact h.elim

/-- A request about one name leaves what stands under the others. -/
theorem under_of_own (w : World) (h : r.Own name leaves) (hne : other ≠ name) (d : Definitions) :
    (w.answerDefinitions r d).2.under other = d.under other := by
  cases r with
  | catalog call =>
    cases call with
    | get n => rfl
    | list => rfl
    | put n written mode =>
      obtain ⟨rfl, -⟩ := h
      rw [answerDefinitions_put]
      split
      · simp [Definitions.under, hne.symm]
      · rfl
    | delete n =>
      obtain ⟨rfl, -⟩ := h
      rw [answerDefinitions_delete]
      split
      · simp [Definitions.under, hne.symm]
      · rfl
  | secrets call =>
    cases call with
    | get n => rfl
    | put n secret mode =>
      cases h
      rw [answerDefinitions_putSecret]
      split
      · simp [Definitions.under, hne.symm]
      · rfl
    | delete n =>
      cases h
      rw [answerDefinitions_deleteSecret]
      simp [Definitions.under, hne.symm]
  | record entry | workloads call | count metric | clock | sleepUntil due => rfl

/-- Requests about different names change places. -/
theorem own_comm (w : World) (h : r.Own name leaves) (h' : r'.Own other leaves')
    (hne : name ≠ other) (d : Definitions) :
    (w.answerDefinitions r (w.answerDefinitions r' d).2).2 =
      (w.answerDefinitions r' (w.answerDefinitions r d).2).2 := by
  refine Definitions.ext_under fun n => ?_
  by_cases hn : n = name
  · subst hn
    rw [under_of_own w h' hne, (own_congr w h (under_of_own w h' hne d)).2]
  · rw [under_of_own w h hn]
    by_cases hn' : n = other
    · subst hn'
      rw [(own_congr w h' (under_of_own w h hn d)).2]
    · rw [under_of_own w h' hn', under_of_own w h' hn', under_of_own w h hn]

/-- Looking at the catalog leaves everything as it is. -/
theorem definitions_of_looksUp (w : World) (h : r.LooksUp) (d : Definitions) :
    (w.answerDefinitions r d).2 = d := by
  cases r with
  | catalog call => cases call <;> first | rfl | exact h.elim
  | _ => exact h.elim

/-- What stands under a name is as a request about it leaves it. -/
theorem get?_of_own (w : World) (h : r.Own name leaves) (d : Definitions) :
    (w.answerDefinitions r d).2.catalog.get? name = d.catalog.get? name ∨
      r.Commits ∧ leaves ((w.answerDefinitions r d).2.catalog.get? name) := by
  cases r with
  | catalog call =>
    cases call with
    | get n => exact .inl rfl
    | list => exact h.elim
    | put n written mode =>
      obtain ⟨rfl, hleaves⟩ := h
      rw [answerDefinitions_put]
      split
      · exact .inr ⟨trivial, by simpa using hleaves⟩
      · exact .inl rfl
    | delete n =>
      obtain ⟨rfl, hleaves⟩ := h
      rw [answerDefinitions_delete]
      split
      · exact .inr ⟨trivial, by simpa using hleaves⟩
      · exact .inl rfl
  | secrets call =>
    cases call with
    | get n => exact .inl rfl
    | put n secret mode =>
      rw [answerDefinitions_putSecret]
      split <;> exact .inl rfl
    | delete n =>
      rw [answerDefinitions_deleteSecret]
      exact .inl rfl
  | record entry | workloads call => exact .inl rfl
  | count metric | clock | sleepUntil due => exact h.elim

/-! ## One look at the catalog -/

/-- Two replies to a request come from records that are the same as far as one sees them. -/
def SeenAlike (w : World) (sight : String → Option Record → Bool) (r : Request) (a b : r.Reply) :
    Prop :=
  ∃ d e : Definitions,
    (∀ name, sight name (d.catalog.get? name) = sight name (e.catalog.get? name)) ∧
      a = (w.answerDefinitions r d).1 ∧ b = (w.answerDefinitions r e).1

/-- A procedure is about one name, but for at most one look at the catalog. -/
abbrev LooksOnce (w : World) (name : String) (leaves : Option Record → Prop)
    (sight : String → Option Record → Bool) {α : Type} (p : Procedure α) : Prop :=
  Dialogue.OnceAsks (Request.Own name leaves) Request.LooksUp (w.SeenAlike sight) p

/-- A procedure writes or removes at most one record. -/
abbrev CommitsOnce {α : Type} (p : Procedure α) : Prop :=
  Dialogue.OnceAsks (fun r => ¬ r.Commits) Request.Commits (fun _ => Eq) p

variable {α β : Type} {p : Procedure α} {q : Procedure β}
  {sight sight' : String → Option Record → Bool}

/-- What stands under other names is left, and what is left to do is of the same kind. -/
theorem LooksOnce.ask {next : r.Reply → Procedure α}
    (h : w.LooksOnce name leaves sight (.ask r next)) :
    (∀ d other, other ≠ name → (w.answerDefinitions r d).2.under other = d.under other) ∧
      ∀ reply, w.LooksOnce name leaves sight (next reply) := by
  rcases h with ⟨hown, hnext⟩ | ⟨hlook, -, hnext⟩
  · exact ⟨fun d other hne => under_of_own w hown hne d, hnext⟩
  · exact ⟨fun d other _ => by rw [definitions_of_looksUp w hlook], fun reply => (hnext reply).once⟩

/-- What stands under its own name is left, or written. -/
theorem LooksOnce.get?_ask {next : r.Reply → Procedure α}
    (h : w.LooksOnce name leaves sight (.ask r next)) (d : Definitions) :
    (w.answerDefinitions r d).2.catalog.get? name = d.catalog.get? name ∨
      r.Commits ∧ leaves ((w.answerDefinitions r d).2.catalog.get? name) := by
  rcases h with ⟨hown, -⟩ | ⟨hlook, -, -⟩
  · exact get?_of_own w hown d
  · exact .inl (by rw [definitions_of_looksUp w hlook])

theorem LooksOnce.under_run (h : w.LooksOnce name leaves sight p) (hne : other ≠ name)
    (d : Definitions) : (p.run w.answerDefinitions d).2.under other = d.under other := by
  induction p generalizing d with
  | done result => rfl
  | ask r next ih => exact (ih _ (h.ask.2 _) _).trans (h.ask.1 d other hne)

/-- A request about another name changes places with all of a procedure that does not see what it
does. -/
theorem LooksOnce.run_comm (h : w.LooksOnce name leaves sight p) (hr : r.Own other leaves')
    (hne : name ≠ other) {d : Definitions}
    (hunseen : sight other ((w.answerDefinitions r d).2.catalog.get? other) =
      sight other (d.catalog.get? other)) :
    p.run w.answerDefinitions (w.answerDefinitions r d).2 =
      ((p.run w.answerDefinitions d).1,
        (w.answerDefinitions r (p.run w.answerDefinitions d).2).2) := by
  induction p generalizing d with
  | done result => rfl
  | ask r₁ next ih =>
    simp only [Dialogue.run_ask]
    rcases h with ⟨hown, hnext⟩ | ⟨hlook, halike, hnext⟩
    · have hreply := (own_congr w hown (under_of_own w hr hne d)).1
      have hkept := under_of_own w hown hne.symm d
      have hstep := congrArg Prod.fst (own_congr w hr hkept).2
      rw [hreply, own_comm w hown hr hne d]
      refine ih _ (hnext _) ?_
      exact (congrArg (sight other) hstep).trans
        (hunseen.trans (congrArg (sight other) (congrArg Prod.fst hkept).symm))
    · have hsame : next (w.answerDefinitions r₁ (w.answerDefinitions r d).2).1 =
          next (w.answerDefinitions r₁ d).1 := by
        refine halike _ _ ⟨_, d, fun n => ?_, rfl, rfl⟩
        by_cases hn : n = other
        · exact hn ▸ hunseen
        · exact congrArg (sight n) (congrArg Prod.fst (under_of_own w hr hn d))
      rw [hsame, definitions_of_looksUp w hlook, definitions_of_looksUp w hlook]
      exact ih _ (hnext _).once hunseen

/-! ## Unseen changes -/

/-- Whatever a procedure does to the record under its name, one sees no difference. This may rest on
something that its steps keep and that what happens under a foreign name does not touch. -/
def Unseen (w : World) (seen : Option Record → Bool) (name foreign : String) (q : Procedure β)
    (d : Definitions) : Prop :=
  ∃ K : Definitions → Prop, K d ∧ q.Keeps w.answerDefinitions K ∧
    (∀ d e : Definitions, (∀ n, n ≠ foreign → e.under n = d.under n) → K d → K e) ∧
    ∀ d e : Definitions, K d → K e → seen (d.catalog.get? name) = seen (e.catalog.get? name)

variable {seen : Option Record → Bool} {foreign : String}

theorem Unseen.ask {next : r.Reply → Procedure β}
    (h : w.Unseen seen name foreign (.ask r next) d) :
    seen ((w.answerDefinitions r d).2.catalog.get? name) = seen (d.catalog.get? name) ∧
      w.Unseen seen name foreign (next (w.answerDefinitions r d).1)
        (w.answerDefinitions r d).2 := by
  obtain ⟨K, hd, hkeeps, hforeign, hseen⟩ := h
  obtain ⟨hstep, hnext⟩ := hkeeps d hd
  exact ⟨hseen _ _ hstep hd, K, hstep, hnext, hforeign, hseen⟩

/-- What happens under the foreign name does not count. -/
theorem Unseen.of_under (h : w.Unseen seen name foreign q d)
    (hsame : ∀ n, n ≠ foreign → e.under n = d.under n) : w.Unseen seen name foreign q e := by
  obtain ⟨K, hd, hkeeps, hforeign, hseen⟩ := h
  exact ⟨K, hforeign d e hsame hd, hkeeps, hforeign, hseen⟩

theorem Unseen.run (h : w.Unseen seen name foreign q d) :
    seen ((q.run w.answerDefinitions d).2.catalog.get? name) = seen (d.catalog.get? name) := by
  obtain ⟨K, hd, hkeeps, -, hseen⟩ := h
  exact hseen _ _ (hkeeps.run hd) hd

/-- Who looks at nothing overlooks everything. -/
theorem unseen_of_const (hconst : ∀ x y, seen x = seen y) (q : Procedure β) (d : Definitions) :
    w.Unseen seen name foreign q d :=
  ⟨fun _ => True, trivial, Dialogue.keeps_true q, fun _ _ _ _ => trivial,
    fun _ _ _ _ => hconst _ _⟩

/-- What a procedure rests on may be said of the record under its name alone. -/
theorem unseen_of_keeps (hne : name ≠ foreign) {K : Option Record → Prop}
    (hd : K (d.catalog.get? name))
    (hkeeps : q.Keeps w.answerDefinitions fun d => K (d.catalog.get? name))
    (hseen : ∀ x y, K x → K y → seen x = seen y) : w.Unseen seen name foreign q d := by
  refine ⟨_, hd, hkeeps, fun d e hsame hK => ?_, fun d e hK hK' => hseen _ _ hK hK'⟩
  have hrecord : e.catalog.get? name = d.catalog.get? name := congrArg Prod.fst (hsame name hne)
  rw [hrecord]
  exact hK

/-- What a procedure may leave is kept. -/
theorem LooksOnce.keeps (h : w.LooksOnce name leaves sight q) {K : Option Record → Prop}
    (hleaves : ∀ record, leaves record → K record) :
    q.Keeps w.answerDefinitions fun d => K (d.catalog.get? name) := by
  induction q with
  | done result => trivial
  | ask r next ih =>
    refine fun d hd => ⟨?_, ih _ (h.ask.2 _)⟩
    rcases h.get?_ask d with hkept | ⟨-, hleft⟩
    · rw [hkept]
      exact hd
    · exact hleaves _ hleft

/-- So is what is true of all records. -/
theorem LooksOnce.keeps_all (h : w.LooksOnce name leaves sight q) {K : Option Record → Prop}
    (hleaves : ∀ record, leaves record → K record) :
    q.Keeps w.answerDefinitions fun d => ∀ n, K (d.catalog.get? n) := by
  induction q with
  | done result => trivial
  | ask r next ih =>
    refine fun d hd => ⟨fun n => ?_, ih _ (h.ask.2 _)⟩
    by_cases hn : n = name
    · subst hn
      rcases h.get?_ask d with hkept | ⟨-, hleft⟩
      · rw [hkept]
        exact hd n
      · exact hleaves _ hleft
    · rw [show (w.answerDefinitions r d).2.catalog.get? n = d.catalog.get? n from
        congrArg Prod.fst (h.ask.1 d n hn)]
      exact hd n

/-- What stands under other names is kept. -/
theorem LooksOnce.keeps_under (h : w.LooksOnce name leaves sight q) (d : Definitions) :
    q.Keeps w.answerDefinitions fun e => ∀ n, n ≠ name → e.under n = d.under n := by
  induction q with
  | done result => trivial
  | ask r next ih =>
    exact fun e he => ⟨fun n hn => (h.ask.1 e n hn).trans (he n hn), ih _ (h.ask.2 _)⟩

/-- Where no record is written there is nothing to see. -/
theorem unseen_of_not_commits (hne : name ≠ foreign) (h : w.LooksOnce name leaves sight q)
    (hquiet : q.OnlyAsks fun r => ¬ r.Commits) (d : Definitions) :
    w.Unseen seen name foreign q d := by
  refine unseen_of_keeps (K := (· = d.catalog.get? name)) hne rfl ?_ fun x y hx hy => by rw [hx, hy]
  induction q with
  | done result => trivial
  | ask r next ih =>
    refine fun e he => ⟨?_, ih _ (h.ask.2 _) (hquiet.2 _)⟩
    exact ((h.get?_ask e).resolve_right fun hboth => hquiet.1 hboth.1).trans he

/-! ## Races about different names -/

variable {ends : (Outcome α × Outcome β) × Definitions}

/-- A request about a name may as well come after all of a procedure about another one that does not
see what it does. -/
theorem serial_ask_of_own {next : r.Reply → Procedure β} (hne : name ≠ other)
    (hp : w.LooksOnce name leaves sight p) (hown : r.Own other leaves')
    (hstep : sight other ((w.answerDefinitions r d).2.catalog.get? other) =
      sight other (d.catalog.get? other)) :
    Dialogue.serial w.answerDefinitions p (next (w.answerDefinitions r d).1)
      (w.answerDefinitions r d).2 = Dialogue.serial w.answerDefinitions p (.ask r next) d := by
  refine Dialogue.serial_ask_right (hp.run_comm hown hne hstep) (congrArg next ?_)
  exact (own_congr w hown (hp.under_run hne.symm d)).1.symm

/-- So may a look at the catalog that does not see what that procedure does. -/
theorem serial_ask_of_unseen {next : r.Reply → Procedure β} (hne : name ≠ other)
    (hp : w.LooksOnce name leaves sight p) (hq : w.LooksOnce other leaves' sight' (.ask r next))
    (hstep : sight other ((w.answerDefinitions r d).2.catalog.get? other) =
      sight other (d.catalog.get? other))
    (hrun : sight' name ((p.run w.answerDefinitions d).2.catalog.get? name) =
      sight' name (d.catalog.get? name)) :
    Dialogue.serial w.answerDefinitions p (next (w.answerDefinitions r d).1)
      (w.answerDefinitions r d).2 = Dialogue.serial w.answerDefinitions p (.ask r next) d := by
  rcases hq with ⟨hown, -⟩ | ⟨hlook, halike, -⟩
  · exact serial_ask_of_own hne hp hown hstep
  · refine Dialogue.serial_ask_right ?_ (halike _ _ ⟨d, _, fun n => ?_, rfl, rfl⟩)
    · rw [definitions_of_looksUp w hlook, definitions_of_looksUp w hlook]
    · by_cases hn : n = name
      · exact hn ▸ hrun.symm
      · exact congrArg (sight' n) (congrArg Prod.fst (hp.under_run hn d)).symm

/-- Procedures about different names, of which neither sees what the other does, go either way. -/
theorem races_unseen (hraces : Dialogue.Races w.answerDefinitions p q d ends) (hne : name ≠ other)
    (hp : w.LooksOnce name leaves sight p) (hq : w.LooksOnce other leaves' sight' q)
    (hpu : w.Unseen (sight' name) name other p d)
    (hqu : w.Unseen (sight other) other name q d) :
    ends = Dialogue.serial w.answerDefinitions p q d := by
  induction hraces with
  | ended a b d => rfl
  | @left r next q d ends rest ih =>
    exact ih (hp.ask.2 _) hq hpu.ask.2 (hqu.of_under (hp.ask.1 d))
  | @right p r next d ends rest ih =>
    exact (ih hp (hq.ask.2 _) (hpu.of_under (hq.ask.1 d)) hqu.ask.2).trans
      (serial_ask_of_unseen hne hp hq hqu.ask.1 hpu.run)

/-- One of two procedures about different names does not see what the other does, and writes at most
one record: then the other comes first if it has looked before that, and second if not. -/
theorem races_serializable (hraces : Dialogue.Races w.answerDefinitions p q d ends)
    (hne : name ≠ other) (hp : w.LooksOnce name leaves sight p) (hcommits : CommitsOnce p)
    (hq : w.LooksOnce other leaves' sight' q) (hqu : w.Unseen (sight other) other name q d) :
    ends = Dialogue.serial w.answerDefinitions p q d ∨
      ends = Dialogue.swapped (Dialogue.serial w.answerDefinitions q p d) := by
  induction hraces with
  | ended a b d => exact .inl rfl
  | @left r next q d ends rest ih =>
    have hqu' := hqu.of_under (hp.ask.1 d)
    rcases hcommits with ⟨hquiet, hrest⟩ | ⟨-, -, hrest⟩
    · refine (ih (hp.ask.2 _) (hrest _) hq hqu').imp_right fun hends => ?_
      have hkept : (w.answerDefinitions r d).2.catalog.get? name = d.catalog.get? name :=
        (hp.get?_ask d).resolve_right fun hboth => hquiet hboth.1
      rw [hends, serial_ask_of_unseen hne.symm hq hp (congrArg (sight' name) hkept) hqu.run]
    · have hends := races_unseen rest hne (hp.ask.2 _) hq
        (unseen_of_not_commits hne (hp.ask.2 _) (hrest _) _) hqu'
      exact .inl hends
  | @right p r next d ends rest ih =>
    rcases hq with ⟨hown, hrest⟩ | ⟨hlook, -, hrest⟩
    · refine (ih hp hcommits (hrest _) hqu.ask.2).imp_left fun hends => ?_
      exact hends.trans (serial_ask_of_own hne hp hown hqu.ask.1)
    · have hblind : w.LooksOnce other leaves' (fun _ _ => true)
          (next (w.answerDefinitions r d).1) :=
        (hrest _).once
      have hends := races_unseen rest.symm hne.symm hblind hp hqu.ask.2
        (unseen_of_const (fun _ _ => rfl) p _)
      exact .inr (congrArg Dialogue.swapped hends)

end World

end TaskEngine
