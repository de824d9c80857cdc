import Mathlib.Data.List.Nodup
import TaskEngine.Proofs.Integrity

/-!
# Listings and scopes

A listing of records filters the catalog by what its scope permits. A listing of workloads asks the
orchestrator once for each task of the scope and merges the answers by name. Both show the same:
every object that the scope permits, once, in the order of names. What makes the merge right is that
the orchestrator keeps its objects under their own names, and each tells its task.
-/

namespace TaskEngine

open Engine

/-! ## What a list of identifiers grants -/

namespace AuthorizedIds

/-- Whether a list of identifiers grants an object: it names the object or holds the wildcard. -/
def Grants (ids : List String) (id : String) : Prop := wildcard ∈ ids ∨ id ∈ ids

instance (ids : List String) (id : String) : Decidable (Grants ids id) :=
  inferInstanceAs (Decidable (wildcard ∈ ids ∨ id ∈ ids))

/-- The scope of a list permits exactly what the list grants. -/
theorem permits_ofList (ids : List String) (id : String) :
    (ofList ids).permits id = decide (Grants ids id) := by
  by_cases h : wildcard ∈ ids
  · simp [ofList, permits, Grants, h]
  · simp [ofList, permits, Grants, h]

end AuthorizedIds

/-! ## Objects under their names -/

/-- Whether metadata name this key and some task. -/
def Cluster.Meta.Identifies (m : Cluster.Meta) (key : String) : Prop :=
  m.name = some key ∧ ∃ task, m.labels.bind (·.get? Label.task) = some task

/-- What metadata with labels tell of a key that is among them. -/
theorem Cluster.Meta.label_of_bind {m : Cluster.Meta} {key text : String}
    (h : m.labels.bind (·.get? key) = some text) : m.label key = text := by
  obtain ⟨labels, hlabels, hget⟩ := Option.bind_eq_some_iff.mp h
  rw [Cluster.Meta.label, hlabels, Option.getD_some, hget, Option.getD_some]

namespace Stores

/-- The orchestrator keeps jobs, scheduled jobs and deployments under their names. -/
structure Keyed (s : Stores) : Prop where
  job : ∀ id j, s.workloads.jobs.get? id = some j → j.job.metadata.Identifies id
  cronJob : ∀ name object, s.workloads.cronJobs.get? name = some object →
    object.metadata.Identifies name
  deployment : ∀ name object, s.workloads.deployments.get? name = some object →
    object.metadata.Identifies name

theorem keyed_empty : (World.stores {}).Keyed where
  job := by simp [World.stores]
  cronJob := by simp [World.stores]
  deployment := by simp [World.stores]

variable {s t : Stores}

/-- What is written under its name with the labels of a workload stays identified. -/
theorem identifies_insert {α : Type} {objects : Dict α} (metadata : α → Cluster.Meta)
    {name owner task : String} {object : α} (hname : (metadata object).name = some name)
    (hlabels : (metadata object).labels = some (Label.ofWorkload owner task))
    (h : ∀ key stored, objects.get? key = some stored → (metadata stored).Identifies key)
    (key : String) (stored : α) (hstored : (objects.insert name object).get? key = some stored) :
    (metadata stored).Identifies key :=
  Dict.forall_insert ⟨hname, task, by rw [hlabels, task_ofWorkload]⟩ h key stored hstored

/-- Reading statuses changes no metadata. -/
theorem Keyed.polled (h : s.Keyed) (hpolled : s.Polled t) : t.Keyed where
  job id j hj := by
    have hjobs := hpolled.jobs id
    rw [hj, Option.map_some] at hjobs
    obtain ⟨old, hold, hfixed⟩ := Option.map_eq_some_iff.mp hjobs.symm
    have hsame : j.job.metadata = old.job.metadata := congrArg (·.1) hfixed.symm
    rw [hsame]
    exact h.job id old hold
  cronJob := hpolled.cronJobs ▸ h.cronJob
  deployment := hpolled.deployments ▸ h.deployment

/-- A launch makes its job under its name. -/
theorem Keyed.launched (h : s.Keyed) {task owner : String} {jobSuffix podSuffix : NameSuffix}
    (hlaunched : s.Launched t task owner jobSuffix podSuffix) : t.Keyed where
  job := by
    obtain ⟨made, hjobs, hname, hlabels⟩ := hlaunched.jobs
    rw [hjobs]
    exact identifies_insert (fun j : SimulatedJob => j.job.metadata) hname hlabels h.job
  cronJob := hlaunched.cronJobs ▸ h.cronJob
  deployment := hlaunched.deployments ▸ h.deployment

/-- A change writes a scheduled job or a deployment under its name, and removes by name. -/
theorem Keyed.change {target : Target} (h : s.Keyed) (hchange : s.Change target t) : t.Keyed := by
  cases hchange with
  | cronJob labels held named =>
    exact { h with cronJob := identifies_insert Cluster.CronJob.metadata named labels h.cronJob }
  | cronJobRemoval =>
    exact { h with
      cronJob := fun key object hobject => h.cronJob key object (Dict.get?_of_erase hobject) }
  | deployment labels held named =>
    exact { h with
      deployment := identifies_insert Cluster.Deployment.metadata named labels h.deployment }
  | deploymentRemoval =>
    exact { h with
      deployment := fun key object hobject => h.deployment key object (Dict.get?_of_erase hobject) }
  | jobRemoval held =>
    exact { h with job := fun id j hj => h.job id j (Dict.get?_of_erase hj) }
  | _ => exact ⟨h.job, h.cronJob, h.deployment⟩

/-- Whatever happens keeps objects under their names. -/
theorem Keyed.step (hstep : s.Step t) (h : s.Keyed) : t.Keyed := by
  cases hstep with
  | polled hpolled => exact h.polled hpolled
  | changed target hchange => exact h.change hchange
  | launched made task owner jobSuffix podSuffix hlaunched hpolled =>
    exact (h.launched hlaunched).polled hpolled

end Stores

/-! ## What a listing shows -/

/-- A listing shows what passes a test, each once, in ascending order of names. -/
structure Dict.Shows {α β : Type} (objects : Dict α) (test : String → α → Bool)
    (view : String → α → β) (name : β → String) (shown : List β) : Prop where
  /-- The views of the objects that pass. -/
  views : shown = (objects.filter test).toList.map fun entry => view entry.1 entry.2
  /-- They bear the names of these objects. -/
  names : shown.map name = (objects.filter test).keys
  /-- No name comes twice, and smaller ones come first. -/
  ascending : (shown.map name).Pairwise (· < ·)

/-- The keys of a dictionary ascend. -/
theorem Dict.keys_ascending {α : Type} (d : Dict α) : d.keys.Pairwise (· < ·) :=
  List.pairwise_map.mpr d.sorted

/-- The views of what passes a test are a listing, if they bear the names of their objects. -/
theorem Dict.shows_of_named {α β : Type} {objects : Dict α} (test : String → α → Bool)
    {view : String → α → β} {name : β → String}
    (h : ∀ key object, objects.get? key = some object → name (view key object) = key) :
    objects.Shows test view name
      ((objects.filter test).toList.map fun entry => view entry.1 entry.2) := by
  have hnames : ((objects.filter test).toList.map fun entry => view entry.1 entry.2).map name =
      (objects.filter test).keys := by
    rw [List.map_map]
    apply List.map_congr_left
    rintro ⟨key, object⟩ hmem
    have hget := Dict.get?_filter.mp (Dict.mem_toList.mp hmem)
    exact h key object hget.1
  exact ⟨rfl, hnames, hnames ▸ Dict.keys_ascending _⟩

/-- What passes a test is shown once. -/
theorem Dict.Shows.count_eq_one {α β : Type} [DecidableEq β] {objects : Dict α}
    {test : String → α → Bool} {view : String → α → β} {name : β → String} {shown : List β}
    (h : objects.Shows test view name shown) {key : String} {object : α}
    (hget : objects.get? key = some object) (htest : test key object = true) :
    shown.count (view key object) = 1 := by
  refine List.count_eq_one_of_mem ?_ ?_
  · refine (List.pairwise_map.mp h.ascending).imp fun hlt heq => ?_
    exact String.lt_irrefl _ (heq ▸ hlt)
  · rw [h.views]
    have hmem : (key, object) ∈ (objects.filter test).toList :=
      Dict.mem_toList.mpr (Dict.get?_filter.mpr ⟨hget, htest⟩)
    exact List.mem_map.mpr ⟨(key, object), hmem, rfl⟩

namespace World

variable {w : World}

/-! ## Listings of workloads -/

/-- What the selectors find one after the other is what some of them accepts. -/
theorem mem_flatten_select {α γ : Type} {objects : Dict α} {metadata : α → Cluster.Meta}
    {part : α → γ} {selectors : List String} {c : γ} :
    c ∈ (selectors.map fun selector =>
        (Simulator.select objects metadata selector).map part).flatten ↔
      ∃ key object, objects.get? key = some object ∧
        (∃ selector ∈ selectors,
          Cluster.Selector.accepts selector (metadata object).labels = true) ∧
        part object = c := by
  simp only [List.mem_flatten, List.mem_map, exists_exists_and_eq_and, Simulator.select,
    List.mem_filter, Dict.mem_values]
  constructor
  · rintro ⟨selector, hselector, object, ⟨⟨key, hget⟩, haccepts⟩, hpart⟩
    exact ⟨key, object, hget, ⟨selector, hselector, haccepts⟩, hpart⟩
  · rintro ⟨key, object, hget, ⟨selector, hselector, haccepts⟩, hpart⟩
    exact ⟨selector, hselector, object, ⟨⟨key, hget⟩, haccepts⟩, hpart⟩

/-- A selector of a scope finds an object exactly if the scope permits its task. -/
theorem exists_accepts_iff_permits {scope : AuthorizedIds} (hscope : scope.IsPlain)
    {m : Cluster.Meta} {key : String} (h : m.Identifies key) :
    (∃ selector ∈ scope.taskSelectors, Cluster.Selector.accepts selector m.labels = true) ↔
      scope.permits (m.label Label.task) = true := by
  obtain ⟨-, task, hlabel⟩ := h
  rw [Cluster.Meta.label_of_bind hlabel]
  exact exists_accepts_taskSelectors hscope hlabel

/-- A merged listing shows the objects whose task the scope permits, whatever selectors they were
found by. -/
theorem run_listMerged {α β γ : Type} {objects : Dict α} {metadata : α → Cluster.Meta}
    {part : α → γ} {view : γ → β} {name : β → String} {list : String → Procedure (List γ)}
    (hlist : ∀ selector, w.run (list selector) =
      (.ok ((Simulator.select objects metadata selector).map part), w))
    (hkeyed : ∀ key object, objects.get? key = some object → (metadata object).Identifies key)
    (hname : ∀ key object, objects.get? key = some object → name (view (part object)) = key)
    {scope : AuthorizedIds} (hscope : scope.IsPlain) :
    w.run (listMerged scope list view name) =
      (.ok ((objects.filter fun _ object =>
        scope.permits ((metadata object).label Label.task)).map fun object =>
          view (part object)).values, w) := by
  let found := (scope.taskSelectors.map fun selector =>
    (Simulator.select objects metadata selector).map part).flatten
  have hmerged : Dict.ofList ((found.map view).map fun v => (name v, v)) =
      (objects.filter fun _ object =>
        scope.permits ((metadata object).label Label.task)).map fun object =>
          view (part object) := by
    refine Dict.ofList_eq fun key v => ?_
    simp only [List.mem_map, exists_exists_and_eq_and, Prod.mk.injEq, found, mem_flatten_select,
      Dict.get?_map, Option.map_eq_some_iff, Dict.get?_filter]
    constructor
    · rintro ⟨c, ⟨k, object, hget, haccepts, rfl⟩, hk, hv⟩
      rw [hname k object hget] at hk
      subst hk
      exact ⟨object, ⟨hget, (exists_accepts_iff_permits hscope (hkeyed k object hget)).mp haccepts⟩,
        hv⟩
    · rintro ⟨object, ⟨hget, hpermitted⟩, hv⟩
      have haccepts := (exists_accepts_iff_permits hscope (hkeyed key object hget)).mpr hpermitted
      exact ⟨_, ⟨key, object, hget, haccepts, rfl⟩, hname key object hget, hv⟩
  rw [listMerged, run_bind_of_ok (run_each hlist _)]
  exact congrArg (fun d : Dict β => (Except.ok d.values, w)) hmerged

/-- A merged listing in terms of what it shows. -/
theorem shows_listMerged {α β γ : Type} {objects : Dict α} {metadata : α → Cluster.Meta}
    {part : α → γ} {list : String → Procedure (List γ)} (view : γ → β) (name : β → String)
    (hlist : ∀ selector, w.run (list selector) =
      (.ok ((Simulator.select objects metadata selector).map part), w))
    (hkeyed : ∀ key object, objects.get? key = some object → (metadata object).Identifies key)
    (hname : ∀ object, name (view (part object)) = (metadata object).name.getD "")
    {scope : AuthorizedIds} (hscope : scope.IsPlain) :
    ∃ shown, (w.run (listMerged scope list view name)).1 = .ok shown ∧
      objects.Shows (fun _ object => scope.permits ((metadata object).label Label.task))
        (fun _ object => view (part object)) name shown := by
  have hkey : ∀ key object, objects.get? key = some object → name (view (part object)) = key := by
    intro key object hobject
    rw [hname, (hkeyed key object hobject).1, Option.getD_some]
  rw [run_listMerged hlist hkeyed hkey hscope, Dict.values_map]
  exact ⟨_, rfl, Dict.shows_of_named _ hkey⟩

/-! ## Listings of a session -/

/-- The listings for a list of identifiers show exactly the objects that the list grants. -/
structure ListsScope (w : World) (config : EngineConfig) (ids : List String) : Prop where
  /-- The jobs of the granted tasks. -/
  jobs : ∃ shown,
    (w.run ((ServiceCall.listJobs (.ofList ids)).procedure config)).1 = .ok (.jobs shown) ∧
    w.workloads.jobs.Shows
      (fun _ j => decide (AuthorizedIds.Grants ids (j.job.metadata.label Label.task)))
      (fun _ j => JobSummary.ofCluster j.job) JobSummary.id shown
  /-- The scheduled jobs of the granted tasks. -/
  cronJobs : ∃ shown,
    (w.run ((ServiceCall.listCronJobs (.ofList ids)).procedure config)).1 =
      .ok (.cronJobs shown) ∧
    w.workloads.cronJobs.Shows
      (fun _ object => decide (AuthorizedIds.Grants ids (object.metadata.label Label.task)))
      (fun _ object => CronJob.ofCluster object) CronJob.name shown
  /-- The deployments of the granted tasks. -/
  deployments : ∃ shown,
    (w.run ((ServiceCall.listDeployments (.ofList ids)).procedure config)).1 =
      .ok (.deployments shown) ∧
    w.workloads.deployments.Shows
      (fun _ object => decide (AuthorizedIds.Grants ids (object.metadata.label Label.task)))
      (fun _ object => Deployment.ofCluster object) Deployment.name shown
  /-- The runners with a granted name. -/
  runners : ∃ shown,
    (w.run ((ServiceCall.listRunners (.ofList ids)).procedure config)).1 = .ok (.runners shown) ∧
    w.catalog.records.Shows
      (fun name record => Runner.isRecord record && decide (AuthorizedIds.Grants ids name))
      Runner.ofRecord Runner.name shown
  /-- The tasks with a granted name. -/
  tasks : ∃ shown,
    (w.run ((ServiceCall.listTasks (.ofList ids)).procedure config)).1 = .ok (.tasks shown) ∧
    w.catalog.records.Shows
      (fun name record => Task.isRecord record && decide (AuthorizedIds.Grants ids name))
      TaskSummary.ofRecord TaskSummary.name shown

/-- All listings of a scope are empty. -/
structure ListsNothing (w : World) (config : EngineConfig) (scope : AuthorizedIds) : Prop where
  jobs : (w.run ((ServiceCall.listJobs scope).procedure config)).1 = .ok (.jobs [])
  cronJobs : (w.run ((ServiceCall.listCronJobs scope).procedure config)).1 = .ok (.cronJobs [])
  deployments :
    (w.run ((ServiceCall.listDeployments scope).procedure config)).1 = .ok (.deployments [])
  runners : (w.run ((ServiceCall.listRunners scope).procedure config)).1 = .ok (.runners [])
  tasks : (w.run ((ServiceCall.listTasks scope).procedure config)).1 = .ok (.tasks [])

/-- Nothing is asked for a scope without identifiers, so nothing fails. -/
theorem listsNothing_ofList_nil (w : World) (config : EngineConfig) :
    w.ListsNothing config (.ofList []) := ⟨rfl, rfl, rfl, rfl, rfl⟩

/-- Records of a kind in a scope, as the listings of the catalog find them. -/
theorem run_listRecords {β : Type} (h : w.StoresHold) (scope : AuthorizedIds)
    (isKind : Record → Bool) (view : String → Record → β) :
    w.run (do
      if scope.isEmpty then return []
      let records ← Procedure.catalog .list
      return (records.filter fun r => isKind r.2 && scope.permits r.1).map fun r =>
        view r.1 r.2) =
      (.ok ((w.catalog.records.filter fun name record =>
        isKind record && scope.permits name).toList.map fun r => view r.1 r.2), w) := by
  cases hempty : scope.isEmpty with
  | false =>
    simp only [Bool.false_eq_true, if_false]
    rw [run_bind_of_ok (run_catalog_list h)]
    rfl
  | true =>
    have hnone : ∀ id, scope.permits id = false := by
      intro id
      cases scope with
      | all => cases hempty
      | only ids =>
        cases List.isEmpty_iff.mp hempty
        rfl
    have hfilter : (w.catalog.records.filter fun name record =>
        isKind record && scope.permits name).toList = [] := by
      refine List.filter_eq_nil_iff.mpr fun entry _ => ?_
      simp only [hnone, Bool.and_false, Bool.false_eq_true, not_false_eq_true]
    rw [hfilter]
    rfl

/-- Where objects are under their names and no call fails, listings show exactly what is granted. -/
theorem listsScope_of_keyed (h : w.stores.Keyed) (hcalm : w.failing = []) (config : EngineConfig)
    {ids : List String} (hscope : (AuthorizedIds.ofList ids).IsPlain) :
    w.ListsScope config ids := by
  have hholds := storesHold_of_calm hcalm
  constructor <;> simp only [← AuthorizedIds.permits_ofList]
  · have hlist : ∀ selector, w.run (Procedure.workloads (.listJobs selector)) =
        (.ok ((Simulator.select w.workloads.jobs (·.job.metadata) selector).map (·.job)), w) :=
      fun selector => run_workloads_of_calm w hcalm _
    obtain ⟨shown, hrun, hshows⟩ := shows_listMerged JobSummary.ofCluster
      JobSummary.id hlist h.job (fun _ => rfl) hscope
    refine ⟨shown, ?_, hshows⟩
    rw [ServiceCall.procedure, run_map, listJobs, hrun]
    rfl
  · have hlist : ∀ selector, w.run (Procedure.workloads (.listCronJobs selector)) =
        (.ok ((Simulator.select w.workloads.cronJobs (·.metadata) selector).map id), w) := by
      intro selector
      rw [List.map_id]
      exact run_workloads_of_calm w hcalm _
    obtain ⟨shown, hrun, hshows⟩ := shows_listMerged CronJob.ofCluster
      CronJob.name hlist h.cronJob (fun _ => rfl) hscope
    refine ⟨shown, ?_, hshows⟩
    rw [ServiceCall.procedure, run_map, listCronJobs, hrun]
    rfl
  · have hlist : ∀ selector, w.run (Procedure.workloads (.listDeployments selector)) =
        (.ok ((Simulator.select w.workloads.deployments (·.metadata) selector).map id), w) := by
      intro selector
      rw [List.map_id]
      exact run_workloads_of_calm w hcalm _
    obtain ⟨shown, hrun, hshows⟩ := shows_listMerged Deployment.ofCluster
      Deployment.name hlist h.deployment (fun _ => rfl) hscope
    refine ⟨shown, ?_, hshows⟩
    rw [ServiceCall.procedure, run_map, listDeployments, hrun]
    rfl
  · refine ⟨_, ?_, Dict.shows_of_named _ fun _ _ _ => rfl⟩
    rw [ServiceCall.procedure, run_map, listRunners, run_listRecords hholds]
    rfl
  · refine ⟨_, ?_, Dict.shows_of_named _ fun _ _ _ => rfl⟩
    rw [ServiceCall.procedure, run_map, listTasks, run_listRecords hholds]
    rfl

/-- All along a session, once no call is made to fail any more, the listings for a list of identifiers
show exactly the objects that it grants; and those for no identifier show nothing, whatever is made
to fail. -/
theorem lists_scope (config : EngineConfig) (events : List SessionEvent) {ids : List String}
    (hids : ∀ id ∈ ids, Name.isLegal id = true ∨ id = AuthorizedIds.wildcard) :
    (World.after config {} events).calm.ListsScope config ids ∧
      ∀ failing, { World.after config {} events with failing }.ListsNothing config (.ofList []) := by
  have hkeyed : (World.after config {} events).calm.stores.Keyed :=
    stores_after Stores.keyed_empty Stores.Keyed.step config events
  have hscope := AuthorizedIds.isPlain_ofList hids
  exact ⟨listsScope_of_keyed hkeyed rfl config hscope, fun _ => listsNothing_ofList_nil _ config⟩

/-- The greeting in which a job is launched. -/
def greetingLaunched : World :=
  (World.after .standard {} (greeting ++
    [.call (.createJob ⟨"alice", "local"⟩ "hello" none)])).calm

/-- A launched job is listed once for the name of its task, which may be repeated, and for the
identifier that stands for all. It is not listed for another name. -/
theorem lists_scope_greeting :
    greetingLaunched.ListsScope .standard ["other", "hello", "hello"] ∧
      (∃ shown, (greetingLaunched.run ((ServiceCall.listJobs
          (.ofList ["other", "hello", "hello"])).procedure .standard)).1 = .ok (.jobs shown) ∧
        shown.map JobSummary.id = ["hello-00001"]) ∧
      (∃ shown, (greetingLaunched.run ((ServiceCall.listJobs
          (.ofList ["shell", "*"])).procedure .standard)).1 = .ok (.jobs shown) ∧
        shown.map JobSummary.id = ["hello-00001"]) ∧
      (greetingLaunched.run ((ServiceCall.listJobs
        (.ofList ["other"])).procedure .standard)).1 = .ok (.jobs []) := by
  have hnamed : greetingLaunched.ListsScope .standard ["other", "hello", "hello"] :=
    (lists_scope .standard _ (by decide)).1
  have hevery : greetingLaunched.ListsScope .standard ["shell", "*"] :=
    (lists_scope .standard _ (by decide)).1
  have hother : greetingLaunched.ListsScope .standard ["other"] :=
    (lists_scope .standard _ (by decide)).1
  obtain ⟨named, hnamedRun, hnamedShown⟩ := hnamed.jobs
  obtain ⟨every, heveryRun, heveryShown⟩ := hevery.jobs
  obtain ⟨other, hotherRun, hotherShown⟩ := hother.jobs
  refine ⟨hnamed, ⟨named, hnamedRun, ?_⟩, ⟨every, heveryRun, ?_⟩, ?_⟩
  · rw [hnamedShown.names]
    decide +kernel
  · rw [heveryShown.names]
    decide +kernel
  · have hnone : other.map JobSummary.id = [] := by
      rw [hotherShown.names]
      decide +kernel
    rw [hotherRun, List.map_eq_nil_iff.mp hnone]

end World

end TaskEngine
