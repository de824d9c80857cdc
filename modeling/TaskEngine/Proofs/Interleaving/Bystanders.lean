import TaskEngine.Proofs.Interleaving.Mutations

/-!
# Mutations that do not meet

A mutation comes to nothing as long as its name stands for something else than it wants. Mutations
of different names meet only where one removes a runner and the other lets a task refer to it; as
long as they do not, one of the two is blind to the other.
-/

namespace TaskEngine

open Engine

namespace World

variable {w : World} {J : Definitions → Prop} {α β : Type} {name : String}

/-! ## Procedures that come to nothing -/

/-- A procedure changes nothing and always comes to the same result. -/
def Futile (w : World) (J : Definitions → Prop) (p : Procedure α) : Prop :=
  ∃ result, p.Idles w.answerDefinitions J result

theorem futile_done (result : Outcome α) : w.Futile J (.done result : Procedure α) := ⟨result, rfl⟩

/-- A check that fails ends it. -/
theorem Futile.lift_bind {result : Outcome α} {next : α → Procedure β}
    (h : ∀ a, result = .ok a → w.Futile J (next a)) :
    w.Futile J (Dialogue.lift result >>= next) := by
  cases result with
  | ok a => exact h a rfl
  | error e => exact futile_done (.error e)

theorem Futile.map {p : Procedure α} (h : w.Futile J p) (f : α → β) : w.Futile J (f <$> p) := by
  obtain ⟨result, hidles⟩ := h
  refine ⟨result.map f, hidles.followedBy fun a ha => ?_⟩
  rw [ha]
  cases result <;> rfl

theorem Futile.audited {p : Procedure α} (h : w.Futile J p) (principal : Principal)
    (action : AuditAction) (category : ResourceKind) (target : String) :
    w.Futile J (Procedure.audited principal action category target p) := by
  obtain ⟨result, hidles⟩ := h
  refine ⟨result, hidles.followedBy fun a ha d _ => ⟨rfl, ?_⟩⟩
  exact ha

/-- A look-up that always has the same consequences. -/
theorem idles_catalog_get {next : Option Record → Procedure β} {result : Outcome β}
    (h : ∀ d, J d → (next (d.catalog.get? name)).Idles w.answerDefinitions J result) :
    (Procedure.catalog (.get name) >>= next).Idles w.answerDefinitions J result :=
  fun d hd => ⟨rfl, h d hd⟩

/-- Whatever is to be done with a runner, there is none. -/
theorem futile_loadRunner (h : ∀ d, J d → Standing.runner.Other (d.catalog.get? name))
    (next : Procedure β) : w.Futile J (loadRunner name >>= fun _ => next) := by
  refine ⟨.error (.notFound runnerResource name), ?_⟩
  rw [loadRunner_bind]
  refine idles_catalog_get fun d hd => ?_
  rw [Standing.any_isRunner_of_other (h d hd)]
  rfl

/-- Whatever is to be done with a task, there is none. -/
theorem futile_loadTask (h : ∀ d, J d → Standing.task.Other (d.catalog.get? name))
    (next : Task → Procedure β) : w.Futile J (loadTask name >>= next) := by
  refine ⟨.error (.notFound taskResource name), ?_⟩
  rw [loadTask_eq, Dialogue.bind_assoc]
  refine idles_catalog_get fun d hd => ?_
  have hany := Standing.any_isTask_of_other (h d hd)
  cases hrecord : d.catalog.get? name with
  | none => rfl
  | some record =>
    rw [hrecord, Option.any_some] at hany
    rw [Task.loaded, hany]
    rfl

/-- Whatever is to be created, its name is taken. -/
theorem idles_create (h : ∀ d, J d → Standing.free.Other (d.catalog.get? name)) (record : Record)
    (next : Record → Procedure β) :
    (Procedure.catalog (.put name record .create) >>= next).Idles w.answerDefinitions J
      (.error (.conflict CatalogCall.resource name)) := by
  intro d hd
  have htaken : d.catalog.contains name = true := Standing.isSome_of_other (h d hd)
  simp only [answerDefinitions_put, htaken, WriteMode.demand]
  exact ⟨trivial, rfl⟩

/-- Whether there is a runner does not matter then, if that stays as it is. -/
theorem futile_createFor {runner : String}
    (h : ∀ d, J d → Standing.free.Other (d.catalog.get? name)) {b : Bool}
    (hrunner : ∀ d, J d → (d.catalog.get? runner).any Runner.isRecord = b) (record : Record)
    (next : Record → Procedure β) :
    w.Futile J
      (loadRunner runner >>= fun _ => Procedure.catalog (.put name record .create) >>= next) := by
  rw [loadRunner_bind]
  cases b with
  | false =>
    refine ⟨.error (.notFound runnerResource runner), idles_catalog_get fun d hd => ?_⟩
    rw [hrunner d hd]
    rfl
  | true =>
    refine ⟨.error (.conflict CatalogCall.resource name), idles_catalog_get fun d hd => ?_⟩
    rw [hrunner d hd]
    exact idles_create h record next

/-- A mutation comes to nothing where its name stands for something else; for a creation there has
to be a runner all the time or none. -/
theorem futile_call (config : EngineConfig) {call : ServiceCall} {m : Mutation}
    (h : call.mutation? = some m) (hother : ∀ d, J d → m.before.Other (d.catalog.get? m.name))
    (hrunner : m.before = .free → ∀ runner ∈ m.runner, ∃ b, ∀ d, J d →
      (d.catalog.get? runner).any Runner.isRecord = b) :
    w.Futile J (call.procedure config) := by
  cases call <;> cases h
  case createRunner principal r =>
    refine .map (.audited (.lift_bind fun _ _ => ?_) _ _ _ _) _
    exact ⟨_, idles_create hother r.toRecord _⟩
  case updateRunner principal r =>
    exact .map (.audited (futile_loadRunner hother _) _ _ _ _) _
  case deleteRunner principal name =>
    exact .map (.audited (futile_loadRunner hother _) _ _ _ _) _
  case createTask principal t =>
    obtain ⟨b, hb⟩ := hrunner rfl t.runner rfl
    refine .map (.audited ?_ _ _ _ _) _
    rw [writeTask_eq]
    exact .lift_bind fun _ _ => .lift_bind fun _ _ => futile_createFor hother hb t.toRecord _
  case updateTask principal t => exact .map (.audited (futile_loadTask hother _) _ _ _ _) _
  case deleteTask principal name => exact .map (.audited (futile_loadTask hother _) _ _ _ _) _
  case updateSchema principal name schema =>
    exact .map (.audited (.lift_bind fun _ _ => futile_loadTask hother _) _ _ _ _) _
  case deleteSchema principal name => exact .map (.audited (futile_loadTask hother _) _ _ _ _) _

/-! ## Procedures that change nothing -/

/-- A procedure changes nothing, whatever it comes to. -/
abbrev Rests (w : World) (J : Definitions → Prop) (p : Procedure α) : Prop :=
  p.Along w.answerDefinitions J (fun d e => e = d) fun _ => True

theorem Futile.rests {p : Procedure α} (h : w.Futile J p) : w.Rests J p := by
  obtain ⟨result, hidles⟩ := h
  exact hidles.mono (fun _ hd => hd) (fun _ _ _ hsame => hsame) fun _ _ => trivial

theorem Rests.map {p : Procedure α} (h : w.Rests J p) (f : α → β) : w.Rests J (f <$> p) :=
  Dialogue.Along.bind h (fun _ _ => trivial) fun _ _ => trivial

theorem Rests.audited {p : Procedure α} (h : w.Rests J p) (principal : Principal)
    (action : AuditAction) (category : ResourceKind) (target : String) :
    w.Rests J (Procedure.audited principal action category target p) :=
  Dialogue.Along.followedBy h fun _ _ _ _ => ⟨rfl, trivial⟩

/-- A task is not created where its name is taken, whether it has a runner or not. -/
theorem rests_createTask {t : Task} (h : ∀ d, J d → Standing.free.Other (d.catalog.get? t.name)) :
    w.Rests J (writeTask t .create) := by
  rw [writeTask_eq]
  cases t.validate with
  | error e => trivial
  | ok u =>
    cases checkedSchema t with
    | error e => trivial
    | ok u =>
      change w.Rests J (loadRunner t.runner >>= fun _ => _)
      rw [loadRunner_bind]
      refine fun d _ => ⟨rfl, ?_⟩
      change w.Rests J (ite _ _ _)
      split
      · exact Futile.rests ⟨_, idles_create h t.toRecord _⟩
      · trivial

/-- A mutation changes nothing where its name stands for something else. -/
theorem rests_call (config : EngineConfig) {call : ServiceCall} {m : Mutation}
    (h : call.mutation? = some m) (hother : ∀ d, J d → m.before.Other (d.catalog.get? m.name)) :
    w.Rests J (call.procedure config) := by
  have hcases : (∃ principal t, call = .createTask principal t) ∨
      (m.before = .free → m.runner = none) := by
    cases call <;> cases h <;> simp
  rcases hcases with ⟨principal, t, rfl⟩ | hnone
  · cases h
    exact ((rests_createTask hother).audited _ _ _ _).map _
  · exact (futile_call config h hother fun hfree runner hmem => by simp [hnone hfree] at hmem).rests

/-- A runner that a task refers to is not removed. -/
theorem rests_deleteRunner {task : String}
    (h : ∀ d, J d → refersTo name (d.catalog.get? task) = true) (principal : Principal) :
    w.Rests J (deleteRunner principal name) := by
  refine .audited ?_ _ _ _ _
  rw [loadRunner_bind]
  refine fun d _ => ⟨rfl, ?_⟩
  change w.Rests J (ite _ _ _)
  split
  · refine fun e he => ⟨rfl, ?_⟩
    obtain ⟨first, hfirst⟩ := Option.ne_none_iff_exists'.mp (dependentTask?_ne_none (h e he))
    simp only [World.answerDefinitions, RecordStore.answerCatalog, Dialogue.followedBy, hfirst]
    trivial
  · trivial

end World

/-! ## Who is blind to whom -/

/-- Every name stands for something. -/
def Definitions.Proper (d : Definitions) : Prop :=
  ∀ name, ∃ s : Standing, s.Holds (d.catalog.get? name)

/-- The name of a mutation stands for what it wants, or for something else. -/
theorem Definitions.Proper.holds_or_other {d : Definitions} (h : d.Proper) (s : Standing)
    (name : String) : s.Holds (d.catalog.get? name) ∨ s.Other (d.catalog.get? name) := by
  obtain ⟨t, ht⟩ := h name
  by_cases hst : t = s
  · exact .inl (hst ▸ ht)
  · exact .inr ⟨t, hst, ht⟩

namespace Mutation

/-- One mutation removes a runner that no task refers to, and the other is about to let a task refer
to it. -/
structure Undercuts (m n : Mutation) (d : Definitions) : Prop where
  before : m.before = .runner
  after : m.after = .free
  refers : n.runner = some m.name
  held : Standing.runner.Holds (d.catalog.get? m.name)
  fits : n.before.Holds (d.catalog.get? n.name)
  unused : ∀ name, refersTo m.name (d.catalog.get? name) = false

end Mutation

namespace World

variable {w : World} {α β : Type} {config : EngineConfig} {call call' : ServiceCall}
  {m n : Mutation} {d : Definitions} {foreign : String} {seen : Option Record → Bool}

theorem Unseen.imp {seen' : Option Record → Bool} {name : String} {q : Procedure β}
    (h : w.Unseen seen name foreign q d) (himp : ∀ x y, seen x = seen y → seen' x = seen' y) :
    w.Unseen seen' name foreign q d := by
  obtain ⟨K, hd, hkeeps, hforeign, hseen⟩ := h
  exact ⟨K, hd, hkeeps, hforeign, fun d e hK hK' => himp _ _ (hseen d e hK hK')⟩

/-- A mutation that finds something else than it wants is not seen. -/
theorem unseen_of_other (config : EngineConfig) (h : call.mutation? = some m)
    (hne : m.name ≠ foreign) (hother : m.before.Other (d.catalog.get? m.name)) :
    w.Unseen seen m.name foreign (call.procedure config) d := by
  refine unseen_of_keeps (K := (· = d.catalog.get? m.name)) hne rfl ?_
    fun x y hx hy => by rw [hx, hy]
  have hrests : w.Rests (fun e => e.catalog.get? m.name = d.catalog.get? m.name)
      (call.procedure config) :=
    rests_call config h fun e he => by rw [he]; exact hother
  exact hrests.mono (fun _ he => he) (fun s t hs hsame => hsame ▸ hs) fun _ _ => trivial

/-- A mutation is not seen if what it may leave looks like what it finds. -/
theorem unseen_of_leaves (config : EngineConfig) (h : call.mutation? = some m)
    (hne : m.name ≠ foreign) {K : Option Record → Prop} (hd : K (d.catalog.get? m.name))
    (hleaves : ∀ record, m.Leaves record → K record) (hseen : ∀ x y, K x → K y → seen x = seen y) :
    w.Unseen seen m.name foreign (call.procedure config) d :=
  unseen_of_keeps hne hd ((footprint_call config h).looks.keeps hleaves) hseen

/-- A task that is written neither makes nor unmakes a runner. -/
theorem unseen_runner (config : EngineConfig) (h : call.mutation? = some m) {runner : String}
    (htask : m.runner = some runner) (hne : m.name ≠ foreign) (hproper : d.Proper) :
    w.Unseen (Option.any Runner.isRecord) m.name foreign (call.procedure config) d := by
  have hstanding : m.after = .task ∧ m.before ≠ .runner := by
    cases call <;> cases h <;> simp_all
  rcases hproper.holds_or_other m.before m.name with hholds | hother
  · refine unseen_of_leaves (K := Standing.runner.Other) config h hne
      ⟨m.before, hstanding.2, hholds⟩
      (fun record hleft => ⟨.task, by simp, hstanding.1 ▸ hleft.standing⟩) fun x y hx hy => ?_
    rw [Standing.any_isRunner_of_other hx, Standing.any_isRunner_of_other hy]
  · exact unseen_of_other config h hne hother

/-- A runner that is removed is no task before and after. -/
theorem unseen_removal (config : EngineConfig) (h : call.mutation? = some m)
    (hbefore : m.before = .runner) (hafter : m.after = .free) (hne : m.name ≠ foreign)
    (hproper : d.Proper) (runner : String) :
    w.Unseen (refersTo runner) m.name foreign (call.procedure config) d := by
  rcases hproper.holds_or_other m.before m.name with hholds | hother
  · refine unseen_of_leaves (K := Standing.task.Other) config h hne
      ⟨.runner, by simp, hbefore ▸ hholds⟩
      (fun record hleft => ⟨.free, by simp, hafter ▸ hleft.standing⟩) fun x y hx hy => ?_
    rw [refersTo_of_other hx, refersTo_of_other hy]
  · exact unseen_of_other config h hne hother

/-- A runner that a task refers to is not seen to be removed, as long as nobody touches the task. -/
theorem unseen_of_used (config : EngineConfig) (h : call.mutation? = some m)
    (hbefore : m.before = .runner) (hafter : m.after = .free) (hne : m.name ≠ foreign)
    {task : String} (htask : task ≠ foreign)
    (hused : refersTo m.name (d.catalog.get? task) = true) :
    w.Unseen seen m.name foreign (call.procedure config) d := by
  have hcall : ∃ principal, call = .deleteRunner principal m.name := by
    cases call <;> cases h <;> simp_all
  obtain ⟨principal, rfl⟩ := hcall
  refine ⟨fun e => e.catalog.get? m.name = d.catalog.get? m.name ∧
    refersTo m.name (e.catalog.get? task) = true, ⟨rfl, hused⟩, ?_, fun e e' hsame he => ?_,
    fun e e' he he' => by rw [he.1, he'.1]⟩
  · have hrests := (rests_deleteRunner (w := w) (J := fun e =>
      e.catalog.get? m.name = d.catalog.get? m.name ∧
        refersTo m.name (e.catalog.get? task) = true) (fun e he => he.2) principal).map
      fun _ => ServiceReply.done
    exact hrests.mono (fun _ he => he) (fun s t hs hsame => hsame ▸ hs) fun _ _ => trivial
  · have hname : e'.catalog.get? m.name = e.catalog.get? m.name :=
      congrArg Prod.fst (hsame m.name hne)
    have htask : e'.catalog.get? task = e.catalog.get? task := congrArg Prod.fst (hsame task htask)
    exact ⟨hname.trans he.1, by rw [htask]; exact he.2⟩

/-- The removal of a runner and a task that is written with it: unless the one undercuts the other,
one does not see what the other does. -/
theorem unseen_or_unseen (config : EngineConfig) (h : call.mutation? = some m)
    (h' : call'.mutation? = some n) (hne : m.name ≠ n.name) (hproper : d.Proper)
    (hbefore : m.before = .runner) (hafter : m.after = .free) (hrefers : n.runner = some m.name)
    (hfree : ¬ m.Undercuts n d) :
    w.Unseen (refersTo m.name) n.name m.name (call'.procedure config) d ∨
      w.Unseen seen m.name n.name (call.procedure config) d := by
  rcases hproper.holds_or_other m.before m.name with hheld | hother
  · rcases hproper.holds_or_other n.before n.name with hfits | hother
    · have hused : ∃ task, refersTo m.name (d.catalog.get? task) = true := by
        by_contra hunused
        exact hfree ⟨hbefore, hafter, hrefers, hbefore ▸ hheld, hfits, by simpa using hunused⟩
      obtain ⟨task, htask⟩ := hused
      by_cases hsame : task = n.name
      · -- The task refers to the runner before, and so it does afterwards.
        subst hsame
        exact .inl (unseen_of_leaves (K := fun record => refersTo m.name record = true) config h'
          hne.symm htask (fun record hleft => hleft.runner _ hrefers)
          fun x y hx hy => hx.trans hy.symm)
      · exact .inr (unseen_of_used config h hbefore hafter hne hsame htask)
    · exact .inl (unseen_of_other config h' hne.symm hother)
  · exact .inr (unseen_of_other config h hne hother)

/-- Of two mutations about different names, one does not see what the other does, unless one
undercuts the other. -/
theorem blind_or_blind (config : EngineConfig) (h : call.mutation? = some m)
    (h' : call'.mutation? = some n) (hne : m.name ≠ n.name) (hproper : d.Proper)
    (hmn : ¬ m.Undercuts n d) (hnm : ¬ n.Undercuts m d) :
    w.Unseen (m.sees n.name) n.name m.name (call'.procedure config) d ∨
      w.Unseen (n.sees m.name) m.name n.name (call.procedure config) d := by
  rcases m.sees_cases with ⟨runner, hrunner, hsees⟩ | ⟨hbefore, hafter, hsees⟩ | hblind
  · rcases n.sees_cases with ⟨runner', hrunner', -⟩ | ⟨hbefore', hafter', hsees'⟩ | hblind'
    · -- Both write tasks, and no task is a runner.
      refine .inl ((unseen_runner config h' hrunner' hne.symm hproper).imp fun x y hxy => ?_)
      rw [hsees, hsees, hxy]
    · by_cases hname : n.name = runner
      · rw [hsees']
        exact (unseen_or_unseen config h' h hne.symm hproper hbefore' hafter' (hname ▸ hrunner)
          hnm).symm
      · exact .inl (unseen_of_const (fun x y => by simp [hsees, hname]) _ d)
    · exact .inr (unseen_of_const (fun x y => by rw [hblind', hblind']) _ d)
  · rw [hsees]
    rcases n.sees_cases with ⟨runner', hrunner', hsees'⟩ | ⟨hbefore', hafter', -⟩ | hblind'
    · by_cases hname : m.name = runner'
      · exact unseen_or_unseen config h h' hne hproper hbefore hafter (hname ▸ hrunner') hmn
      · exact .inr (unseen_of_const (fun x y => by simp [hsees', hname]) _ d)
    · exact .inl (unseen_removal config h' hbefore' hafter' hne.symm hproper m.name)
    · exact .inr (unseen_of_const (fun x y => by rw [hblind', hblind']) _ d)
  · exact .inl (unseen_of_const (fun x y => by rw [hblind, hblind]) _ d)

/-- Mutations of different names are as good as one after the other, unless one removes a runner
that the other lets a task refer to. -/
theorem serializable_of_ne (config : EngineConfig) (h : call.mutation? = some m)
    (h' : call'.mutation? = some n) (hne : m.name ≠ n.name) (hproper : d.Proper)
    (hmn : ¬ m.Undercuts n d) (hnm : ¬ n.Undercuts m d)
    {ends : (Outcome ServiceReply × Outcome ServiceReply) × Definitions}
    (hraces : Dialogue.Races w.answerDefinitions (call.procedure config) (call'.procedure config) d
      ends) :
    ends = Dialogue.serial w.answerDefinitions (call.procedure config) (call'.procedure config) d ∨
      ends = Dialogue.swapped
        (Dialogue.serial w.answerDefinitions (call'.procedure config) (call.procedure config)
          d) := by
  have hm := footprint_call (w := w) config h
  have hn := footprint_call (w := w) config h'
  rcases blind_or_blind (w := w) config h h' hne hproper hmn hnm with hblind | hblind
  · exact races_serializable hraces hne hm.looks hm.commits hn.looks hblind
  · have hends := races_serializable hraces.symm hne.symm hn.looks hn.commits hm.looks hblind
    exact hends.symm.imp (congrArg Dialogue.swapped) (congrArg Dialogue.swapped)

/-! ## Mutations of one name -/

/-- A mutation replaces what it wants by its like, removes it, or makes it from nothing. -/
theorem after_eq_or (h : call.mutation? = some m) :
    m.after = m.before ∨ m.after = .free ∨ m.before = .free := by
  cases call <;> cases h <;> simp

/-- A name stands for something, and what stands under the others is as it was. -/
def StandsFor (d : Definitions) (name : String) (s : Standing) (e : Definitions) : Prop :=
  s.Holds (e.catalog.get? name) ∧ ∀ n, n ≠ name → e.under n = d.under n

variable {name : String} {s t : Standing}

/-- It stands for nothing else. -/
theorem StandsFor.other {e : Definitions} (h : StandsFor d name s e) (hne : t ≠ s) :
    t.Other (e.catalog.get? name) :=
  ⟨s, hne.symm, h.1⟩

/-- What is a runner then is settled. -/
theorem StandsFor.any_isRunner {e : Definitions} (h : StandsFor d name s e) (runner : String) :
    (e.catalog.get? runner).any Runner.isRecord =
      if runner = name then decide (s = .runner)
      else (d.catalog.get? runner).any Runner.isRecord := by
  split
  · rename_i hname
    exact hname ▸ Standing.any_isRunner_of_holds h.1
  · rename_i hname
    exact congrArg (Option.any Runner.isRecord) (congrArg Prod.fst (h.2 runner hname))

/-- A procedure about the name that leaves no other record goes on with it. -/
theorem LooksOnce.keeps_standing {leaves : Option Record → Prop}
    {sight : String → Option Record → Bool} {p : Procedure α}
    (h : w.LooksOnce name leaves sight p) (hleaves : ∀ record, leaves record → s.Holds record) :
    p.Keeps w.answerDefinitions (StandsFor d name s) :=
  (h.keeps hleaves).and (h.keeps_under d)

/-- A mutation that wants something else comes to nothing. -/
theorem futile_of_standsFor (config : EngineConfig) (h : call.mutation? = some m)
    (hname : m.name = name) (hne : m.before ≠ s) :
    w.Futile (StandsFor d name s) (call.procedure config) := by
  subst hname
  exact futile_call config h (fun e he => he.other hne) fun _ runner _ =>
    ⟨_, fun e he => he.any_isRunner runner⟩

/-- Who comes to nothing may as well come last. -/
theorem eq_serial_of_futile {p : Procedure α} {q : Procedure β} {J : Definitions → Prop}
    {ends : (Outcome α × Outcome β) × Definitions}
    (hraces : Dialogue.Races w.answerDefinitions p q d ends) (hp : p.Keeps w.answerDefinitions J)
    (hq : w.Futile J q) (hd : J d) : ends = Dialogue.serial w.answerDefinitions p q d := by
  obtain ⟨result, hidles⟩ := hq
  exact hraces.eq_serial hp hidles hd

/-- A mutation that wants something else than there is, and than the other one of its name may
leave, may as well come last. -/
theorem eq_serial_of_other (config : EngineConfig) (h : call.mutation? = some m)
    (h' : call'.mutation? = some n) (hname : n.name = m.name) (hs : s.Holds (d.catalog.get? m.name))
    (hn : n.before ≠ s) (hm : m.before = s → n.before ≠ m.after)
    {ends : (Outcome ServiceReply × Outcome ServiceReply) × Definitions}
    (hraces : Dialogue.Races w.answerDefinitions (call.procedure config) (call'.procedure config) d
      ends) :
    ends = Dialogue.serial w.answerDefinitions (call.procedure config) (call'.procedure config)
      d := by
  have hlooks := (footprint_call (w := w) config h).looks
  have hstands : StandsFor d m.name s d := ⟨hs, fun _ _ => rfl⟩
  by_cases hbefore : m.before = s
  · by_cases hafter : m.after = s
    · -- The name goes on to stand for the same.
      have hkeeps : (call.procedure config).Keeps w.answerDefinitions (StandsFor d m.name s) :=
        hlooks.keeps_standing fun record hleft => hafter ▸ hleft.standing
      exact eq_serial_of_futile hraces hkeeps (futile_of_standsFor config h' hname hn) hstands
    · have hleft := hm hbefore
      have hkeeps : (call.procedure config).Keeps w.answerDefinitions
          fun e => n.before.Other (e.catalog.get? m.name) :=
        hlooks.keeps fun record hrecord => ⟨m.after, hleft.symm, hrecord.standing⟩
      refine eq_serial_of_futile hraces hkeeps ?_ (hstands.other hn)
      refine futile_call config h' (fun e he => hname ▸ he) fun hfree => ?_
      rcases after_eq_or h with hsame | hgone | hnew
      · exact (hafter (hsame.trans hbefore)).elim
      · exact (hleft (hfree.trans hgone.symm)).elim
      · exact (hn (hfree.trans (hnew.symm.trans hbefore))).elim
  · -- Neither of the two finds what it wants.
    have hrests : w.Rests (StandsFor d m.name s) (call.procedure config) :=
      rests_call config h fun e he => he.other hbefore
    have hkeeps : (call.procedure config).Keeps w.answerDefinitions (StandsFor d m.name s) :=
      hrests.mono (fun _ he => he) (fun _ _ he hsame => hsame ▸ he) fun _ _ => trivial
    exact eq_serial_of_futile hraces hkeeps (futile_of_standsFor config h' hname hn) hstands

end World

end TaskEngine
