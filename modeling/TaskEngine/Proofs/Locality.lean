import TaskEngine.Proofs.Json.RoundTrip
import TaskEngine.Proofs.Ownership

/-!
# Mutations are all or nothing

A mutation that fails leaves the stores as they were, and one that succeeds changes nothing beyond
the target it is addressed to. The one write that something fallible follows is that of a task,
which is read back: it cannot fail since the text of its schema, nested no deeper than JSON text
may be, is read back.
-/

namespace TaskEngine

open Engine

namespace Stores

variable {s t : Stores}

/-! ## What a target owns -/

/-- Whether a pod under a name is labelled with a job. -/
def PodOf (s : Stores) (id name : String) : Prop :=
  ∃ pod, s.workloads.pods.get? name = some pod ∧
    pod.metadata.labels.bind (·.get? Label.job) = some id

/-- Stores that differ in the record and the secret of one name only. -/
structure RecordOnly (s t : Stores) (name : String) : Prop where
  workloads : t.workloads = s.workloads
  catalog : ∀ other, other ≠ name → t.catalog.records.get? other = s.catalog.records.get? other
  secrets : ∀ other, other ≠ name → t.secrets.records.get? other = s.secrets.records.get? other

/-- Stores that differ in the scheduled job of one name only. -/
structure CronJobOnly (s t : Stores) (name : String) : Prop where
  catalog : t.catalog = s.catalog
  secrets : t.secrets = s.secrets
  jobs : t.workloads.jobs = s.workloads.jobs
  pods : t.workloads.pods = s.workloads.pods
  logs : t.workloads.logs = s.workloads.logs
  deployments : t.workloads.deployments = s.workloads.deployments
  cronJobs : ∀ other, other ≠ name →
    t.workloads.cronJobs.get? other = s.workloads.cronJobs.get? other

/-- Stores that differ in the deployment of one name only. -/
structure DeploymentOnly (s t : Stores) (name : String) : Prop where
  catalog : t.catalog = s.catalog
  secrets : t.secrets = s.secrets
  jobs : t.workloads.jobs = s.workloads.jobs
  pods : t.workloads.pods = s.workloads.pods
  logs : t.workloads.logs = s.workloads.logs
  cronJobs : t.workloads.cronJobs = s.workloads.cronJobs
  deployments : ∀ other, other ≠ name →
    t.workloads.deployments.get? other = s.workloads.deployments.get? other

/-- Stores from which one job is gone with the pods that are labelled with it and their logs, and
nothing else. -/
structure JobGone (s t : Stores) (id : String) : Prop where
  catalog : t.catalog = s.catalog
  secrets : t.secrets = s.secrets
  cronJobs : t.workloads.cronJobs = s.workloads.cronJobs
  deployments : t.workloads.deployments = s.workloads.deployments
  job : t.workloads.jobs.get? id = none
  jobs : ∀ other, other ≠ id → t.workloads.jobs.get? other = s.workloads.jobs.get? other
  gone : ∀ name, s.PodOf id name →
    t.workloads.pods.get? name = none ∧ t.workloads.logs.get? name = none
  kept : ∀ name, ¬ s.PodOf id name →
    t.workloads.pods.get? name = s.workloads.pods.get? name ∧
      t.workloads.logs.get? name = s.workloads.logs.get? name

/-- Stores that differ in what a target owns only. -/
def Confined (s t : Stores) : Target → Prop
  | .record name => s.RecordOnly t name
  | .cronJob name => s.CronJobOnly t name
  | .deployment name => s.DeploymentOnly t name
  | .job id => s.JobGone t id

/-- Removing a job removes the pods that are labelled with it. -/
theorem Labelled.jobGone (h : s.Labelled) {id : String} {j : SimulatedJob}
    (hj : s.workloads.jobs.get? id = some j) :
    s.JobGone { s with workloads := s.workloads.removeJob id } id := by
  have hpods (name : String) : name ∈ s.workloads.podsOf id ↔ s.PodOf id name := by
    simp only [Simulator.mem_podsOf, accepts_podSelector (h.job id j hj).1]
    rfl
  refine ⟨rfl, rfl, rfl, rfl, ?_, fun other hne => ?_, fun name hname => ?_, fun name hname => ?_⟩
  · exact (Dict.get?_erase _ _ _).trans (if_pos rfl)
  · exact (Dict.get?_erase _ _ _).trans (if_neg hne.symm)
  · have hmem := (hpods name).mpr hname
    exact ⟨(Dict.get?_foldl_erase ..).trans (if_pos hmem),
      (Dict.get?_foldl_erase ..).trans (if_pos hmem)⟩
  · have hmem := mt (hpods name).mp hname
    exact ⟨(Dict.get?_foldl_erase ..).trans (if_neg hmem),
      (Dict.get?_foldl_erase ..).trans (if_neg hmem)⟩

/-- A change is confined to its target. -/
theorem Change.confined (hchange : s.Change target t) (h : s.Labelled) : s.Confined t target := by
  cases hchange with
  | runner valid admitted rest =>
    exact ⟨rfl, fun other hne => by simp [RecordStore.written, Dict.get?_insert, hne.symm], rest⟩
  | task valid runner admitted rest =>
    exact ⟨rfl, fun other hne => by simp [RecordStore.written, Dict.get?_insert, hne.symm], rest⟩
  | schema schema stored isTask read =>
    exact ⟨rfl, fun other hne => by simp [RecordStore.written, Dict.get?_insert, hne.symm],
      fun _ _ => rfl⟩
  | removal unused =>
    exact ⟨rfl, fun other hne => by simp [Dict.get?_erase, hne.symm],
      fun other hne => RecordStore.get?_removeSecret_of_ne hne⟩
  | secret rest => exact ⟨rfl, fun _ _ => rfl, rest⟩
  | cronJob labels held =>
    exact ⟨rfl, rfl, rfl, rfl, rfl, rfl, fun other hne => by simp [Dict.get?_insert, hne.symm]⟩
  | cronJobRemoval =>
    exact ⟨rfl, rfl, rfl, rfl, rfl, rfl, fun other hne => by simp [Dict.get?_erase, hne.symm]⟩
  | deployment labels held =>
    exact ⟨rfl, rfl, rfl, rfl, rfl, rfl, fun other hne => by simp [Dict.get?_insert, hne.symm]⟩
  | deploymentRemoval =>
    exact ⟨rfl, rfl, rfl, rfl, rfl, rfl, fun other hne => by simp [Dict.get?_erase, hne.symm]⟩
  | jobRemoval held => exact h.jobGone held

/-- Stores that are as they were differ in no record, scheduled job or deployment. -/
theorem confined_self (s : Stores) {target : Target} (h : ∀ id, target ≠ .job id) :
    s.Confined s target := by
  cases target with
  | record name => exact ⟨rfl, fun _ _ => rfl, fun _ _ => rfl⟩
  | cronJob name => exact ⟨rfl, rfl, rfl, rfl, rfl, rfl, fun _ _ => rfl⟩
  | deployment name => exact ⟨rfl, rfl, rfl, rfl, rfl, rfl, fun _ _ => rfl⟩
  | job id => exact absurd rfl (h id)

end Stores

/-! ## Calls -/

/-- A schema nested as JSON text may be is read back. -/
theorem Json.Rereads.of_fits {schema : Json} (hfits : schema.Fits)
    (hdepth : schema.depth ≤ Json.maxDepth) : schema.Rereads :=
  ⟨schema.reread, Json.read?_compact hfits hdepth⟩

namespace World

variable {w : World}

/-- A call that fails leaves the stores as they were, and one that succeeds changes them within a
target only. -/
structure AllOrNothing (w : World) (config : EngineConfig) (call : ServiceCall) (target : Target) :
    Prop where
  nothing : ∀ e, (w.run (call.procedure config)).1 = .error e →
    (w.run (call.procedure config)).2.stores = w.stores
  confined : ∀ reply, (w.run (call.procedure config)).1 = .ok reply →
    w.stores.Confined (w.run (call.procedure config)).2.stores target

/-- A job whose removal succeeds is removed. -/
theorem change_of_deleteJob (config : EngineConfig) {principal : Principal} {id : String}
    {reply : ServiceReply}
    (h : (w.run ((ServiceCall.deleteJob principal id).procedure config)).1 = .ok reply) :
    w.stores.Change (.job id)
      (w.run ((ServiceCall.deleteJob principal id).procedure config)).2.stores := by
  have hstores : (w.run ((ServiceCall.deleteJob principal id).procedure config)).2.stores =
      (w.run (Procedure.workloads (.deleteJob id))).2.stores := by
    rw [ServiceCall.procedure, run_map, deleteJob, run_audited]
    rfl
  rw [hstores]
  rw [ServiceCall.procedure, run_map, deleteJob, run_audited] at h
  obtain ⟨u, hdone, -⟩ := Outcome.map_eq_ok.mp h
  by_cases hfails : (WorkloadCall.deleteJob id).name ∈ w.failing
  · rw [run_workloads_of_mem w hfails] at hdone
    cases hdone
  · rw [run_workloads_of_not_mem w hfails] at hdone ⊢
    simp only [Simulator.answer, Simulator.find] at hdone ⊢
    cases hget : w.workloads.jobs.get? id with
    | none =>
      rw [hget] at hdone
      cases hdone
    | some found => exact .jobRemoval hget

/-- All along a session, a mutation is all or nothing. -/
theorem all_or_nothing (config : EngineConfig) (events : List SessionEvent) {call : ServiceCall}
    {target : Target} (htarget : call.target? = some target)
    (hschema : ∀ schema, call.schema? = some schema →
      schema.Fits ∧ schema.depth ≤ Json.maxDepth) :
    (World.after config {} events).AllOrNothing config call target := by
  have hlabelled := (stores_after ⟨Stores.sound_empty, Stores.labelled_empty⟩ Stores.Labelled.step
    config events).2
  have hsettles := settles_call (storesHold_after config events) config htarget
  have hreads : ∀ schema, call.schema? = some schema → schema.Rereads := fun schema hs =>
    .of_fits (hschema schema hs).1 (hschema schema hs).2
  refine ⟨fun e he => ?_, fun reply hreply => ?_⟩
  · rcases hsettles with hsame | ⟨-, hok⟩
    · exact hsame
    · have hok := hok hreads
      rw [he] at hok
      cases hok
  · rcases hsettles with hsame | ⟨hchange, -⟩
    · by_cases hjob : ∃ principal id, call = .deleteJob principal id
      · obtain ⟨principal, id, rfl⟩ := hjob
        cases htarget
        exact (change_of_deleteJob config hreply).confined hlabelled
      · rw [hsame]
        refine Stores.confined_self _ fun id hid => hjob ?_
        cases call <;> cases htarget <;> cases hid
        exact ⟨_, _, rfl⟩
    · exact hchange.confined hlabelled

/-- Writing a schema into the task of the greeting is all or nothing. -/
theorem all_or_nothing_greeting : (World.after .standard {} greeting).AllOrNothing .standard
    (.updateSchema ⟨"alice", "local"⟩ "hello" (.obj [("type", .str "object")]))
    (.record "hello") := by
  refine all_or_nothing .standard greeting rfl fun schema hschema => ?_
  cases hschema
  exact ⟨by simp [Json.Fits, Json.FitsFields], by decide⟩

end World

end TaskEngine
