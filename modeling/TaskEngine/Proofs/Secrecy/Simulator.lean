import TaskEngine.Proofs.Secrecy.Objects
import TaskEngine.Proofs.Simulator

/-!
# Orchestrators alike up to tokens

Two orchestrators are alike if they hold alike objects under the same names and everything else in
them is the same. Whatever they are asked, they give alike answers and stay alike: names, labels and
statuses decide about an answer, and none of them shows a token.
-/

namespace TaskEngine

/-- Outcomes that succeed with related results, or fail with the same error. -/
inductive Outcome.Alike {α β : Type} (R : α → β → Prop) : Outcome α → Outcome β → Prop where
  | ok {a : α} {b : β} (h : R a b) : Outcome.Alike R (.ok a) (.ok b)
  | error (e : EngineError) : Outcome.Alike R (.error e) (.error e)

namespace Outcome

variable {α β γ δ : Type} {R : α → β → Prop} {S : γ → δ → Prop}

theorem Alike.bind {x : Outcome α} {y : Outcome β} {f : α → Outcome γ} {g : β → Outcome δ}
    (h : Alike R x y) (hnext : ∀ a b, R a b → Alike S (f a) (g b)) :
    Alike S (x >>= f) (y >>= g) := by
  cases h with
  | ok hab => exact hnext _ _ hab
  | error e => exact .error e

/-- Related outcomes succeed or fail together. -/
theorem Alike.isOk_eq {x : Outcome α} {y : Outcome β} (h : Alike R x y) : y.isOk = x.isOk := by
  cases h <;> rfl

/-- Outcomes with the same results are the same. -/
theorem Alike.eq {x y : Outcome α} (h : Alike Eq x y) : y = x := by
  cases h with
  | ok hsame => rw [hsame]
  | error e => rfl

theorem Alike.refl {S : α → α → Prop} (hS : ∀ a, S a a) (x : Outcome α) : Alike S x x := by
  cases x with
  | ok a => exact .ok (hS a)
  | error e => exact .error e

end Outcome

/-- Simulated jobs that are the same but for tokens. -/
structure SimulatedJob.Alike (j k : SimulatedJob) : Prop where
  job : j.job.Alike k.job
  rest : k = { j with job := k.job }

namespace SimulatedJob

/-- A status moves on in the same way. -/
theorem Alike.advance {j k : SimulatedJob} (h : j.Alike k) (now : Instant) :
    (j.advance now).Alike (k.advance now) := by
  obtain ⟨⟨metadata, spec, status⟩, reads, script⟩ := j
  obtain ⟨⟨metadata', spec', status'⟩, reads', script'⟩ := k
  obtain ⟨⟨hspec, hjob⟩, hrest⟩ := h
  cases hjob
  cases hrest
  rw [SimulatedJob.advance, SimulatedJob.advance]
  split
  · exact ⟨⟨hspec, rfl⟩, rfl⟩
  · exact ⟨⟨hspec, rfl⟩, rfl⟩

/-- A status is read in the same way. -/
theorem Alike.read {j k : SimulatedJob} (h : j.Alike k) (now : Instant) :
    (j.read now).Alike (k.read now) := by
  have hreads : k.reads = j.reads := congrArg (·.reads) h.rest
  have hcounted : Alike { j with reads := j.reads + 1 } { k with reads := k.reads + 1 } :=
    ⟨h.job, by rw [h.rest]⟩
  exact hcounted.advance now

end SimulatedJob

/-- Orchestrators that are the same but for tokens. -/
structure Simulator.Alike (s t : Simulator) : Prop where
  jobs : Dict.Alike SimulatedJob.Alike s.jobs t.jobs
  cronJobs : Dict.Alike Cluster.CronJob.Alike s.cronJobs t.cronJobs
  deployments : Dict.Alike Cluster.Deployment.Alike s.deployments t.deployments
  pods : Dict.Alike Cluster.Pod.Alike s.pods t.pods
  rest : t = { s with
    jobs := t.jobs, cronJobs := t.cronJobs, deployments := t.deployments, pods := t.pods }

namespace Simulator

variable {s t : Simulator} {α : Type} {R : α → α → Prop}

/-! ## Looking up and selecting -/

theorem find_alike {d e : Dict α} (h : Dict.Alike R d e) (resource name : String) :
    Outcome.Alike R (find d resource name) (find e resource name) := by
  have hrel := h.get? name
  rw [find, find]
  generalize d.get? name = a at hrel ⊢
  generalize e.get? name = b at hrel ⊢
  cases hrel with
  | some hab => exact .ok hab
  | none => exact .error _

theorem store_alike {d e : Dict α} (h : Dict.Alike R d e) (resource : String)
    (metadata : Cluster.Meta) {a b : α} (hab : R a b) (mode : WriteMode) :
    Outcome.Alike (Dict.Alike R) (store d resource metadata a mode)
      (store e resource metadata b mode) := by
  rw [store, store]
  split
  · exact .error _
  · rename_i name _
    rw [h.contains_eq name]
    exact (Outcome.Alike.refl (fun _ => rfl) _).bind fun _ _ _ => .ok (h.insert name hab)

theorem select_alike {d e : Dict α} (h : Dict.Alike R d e) {metadata : α → Cluster.Meta}
    (hmetadata : ∀ a b, R a b → metadata b = metadata a) (selector : String) :
    List.Forall₂ R (select d metadata selector) (select e metadata selector) := by
  refine List.rel_filter (fun a b hab => ?_) h.values
  simp only [hmetadata a b hab]

/-- The pods of a job have the same names. -/
theorem Alike.podsOf_eq (h : s.Alike t) (id : String) : t.podsOf id = s.podsOf id := by
  have hfiltered := List.rel_filter
    (p := fun a : String × Cluster.Pod =>
      Cluster.Selector.accepts (podSelector id none) a.2.metadata.labels)
    (q := fun b : String × Cluster.Pod =>
      Cluster.Selector.accepts (podSelector id none) b.2.metadata.labels)
    (fun a b hab => by
      have hmetadata : b.2.metadata = a.2.metadata := congrArg (·.metadata) hab.2.rest
      simp only [hmetadata]) h.pods
  rw [podsOf, podsOf, ← List.forall₂_eq_eq_eq, List.forall₂_map_left_iff,
    List.forall₂_map_right_iff]
  exact hfiltered.flip.imp fun _ _ hab => hab.1.symm

/-! ## Answers -/

/-- Calls that alike orchestrators answer alike, and stay alike. -/
structure AnsweredAlike {c d : WorkloadCall} (R : c.Reply → d.Reply → Prop) : Prop where
  name : d.name = c.name
  answer : ∀ now {s t : Simulator}, s.Alike t →
    Outcome.Alike R (s.answer now c).1 (t.answer now d).1 ∧
      (s.answer now c).2.Alike (t.answer now d).2

/-- A change that is settled alike. -/
theorem settle_alike {β : Type} {S : α → β → Prop} (h : s.Alike t)
    {x : Outcome (α × Simulator)} {y : Outcome (β × Simulator)}
    (hxy : Outcome.Alike (fun a b => S a.1 b.1 ∧ a.2.Alike b.2) x y) :
    Outcome.Alike S (s.settle x).1 (t.settle y).1 ∧ (s.settle x).2.Alike (t.settle y).2 := by
  cases hxy with
  | ok hab => exact ⟨.ok hab.1, hab.2⟩
  | error e => exact ⟨.error e, h⟩

/-- An answer that only looks. -/
theorem AnsweredAlike.of_looking {c d : WorkloadCall} {R : c.Reply → d.Reply → Prop}
    (hname : d.name = c.name)
    (hsame : ∀ now (s : Simulator), (s.answer now c).2 = s ∧ (s.answer now d).2 = s)
    (h : ∀ now {s t : Simulator}, s.Alike t →
      Outcome.Alike R (s.answer now c).1 (t.answer now d).1) : AnsweredAlike R :=
  ⟨hname, fun now s t hst => ⟨h now hst, by rwa [(hsame now s).1, (hsame now t).2]⟩⟩

/-- Alike jobs become alike simulated ones. -/
theorem Alike.made (h : s.Alike t) {j k : Cluster.Job} (hjk : j.Alike k) (now : Instant)
    (name : String) : (s.made now j name).Alike (t.made now k name) := by
  have hmetadata : k.metadata = j.metadata := congrArg (·.metadata) hjk.rest
  have htemplate : (k.spec.getD {}).template.metadata = (j.spec.getD {}).template.metadata :=
    congrArg (·.metadata) hjk.template.rest
  have hscript : t.script = s.script := congrArg (·.script) h.rest
  refine SimulatedJob.Alike.advance ⟨⟨hjk.spec, ?_⟩, ?_⟩ now
  · rw [hmetadata, htemplate]
  · rw [hscript]

/-- Alike jobs are put in place with alike pods. -/
theorem Alike.withJob (h : s.Alike t) {j k : Cluster.Job} (hjk : j.Alike k) (now : Instant)
    (name : String) : (s.withJob now j name).Alike (t.withJob now k name) := by
  have hmade := h.made hjk now name
  have hlogs := s.script.logs_eq hjk.template
  have hpod := s.script.pod_alike (s.podName name) name hjk.template
  obtain ⟨jobs, cronJobs, deployments, pods, logs, script, created, mutations, jobSuffix,
    podSuffix⟩ := t
  obtain ⟨hjobs, hcronJobs, hdeployments, hpods, hrest⟩ := h
  cases hrest
  exact {
    jobs := hjobs.insert name hmade
    cronJobs := hcronJobs
    deployments := hdeployments
    pods := hpods.insert (s.podName name) hpod
    rest := by
      simp only [Simulator.withJob, insertPod, hlogs]
      rfl }

theorem answeredAlike_createJob {j k : Cluster.Job} (h : j.Alike k) :
    AnsweredAlike (c := .createJob j) (d := .createJob k) Cluster.Job.Alike := by
  refine ⟨rfl, fun now s t hst => settle_alike hst ?_⟩
  have hname : t.jobName k.metadata = s.jobName j.metadata := by
    rw [hst.rest, congrArg Cluster.Job.metadata h.rest]
    rfl
  rw [createJob_eq, createJob_eq, hname]
  refine (Outcome.Alike.refl (fun _ => rfl) _).bind fun name _ hsame => ?_
  cases hsame
  rw [hst.jobs.contains_eq name]
  refine (Outcome.Alike.refl (fun _ => rfl) _).bind fun _ _ _ => .ok ?_
  exact ⟨(hst.made h now name).job, hst.withJob h now name⟩

theorem answeredAlike_getJob (name : String) :
    AnsweredAlike (c := .getJob name) (d := .getJob name) Cluster.Job.Alike := by
  refine ⟨rfl, fun now s t hst => settle_alike hst ?_⟩
  refine (find_alike hst.jobs _ name).bind fun j k hjk => .ok ⟨(hjk.read now).job, ?_⟩
  exact { hst with jobs := hst.jobs.insert name (hjk.read now), rest := by rw [hst.rest] }

theorem answeredAlike_listJobs (selector : String) :
    AnsweredAlike (c := .listJobs selector) (d := .listJobs selector)
      (List.Forall₂ Cluster.Job.Alike) := by
  refine .of_looking rfl (fun _ _ => ⟨rfl, rfl⟩) fun now s t hst => .ok ?_
  refine List.forall₂_map_left_iff.mpr (List.forall₂_map_right_iff.mpr ?_)
  refine (select_alike hst.jobs (fun j k hjk => ?_) selector).imp fun _ _ hjk => hjk.job
  exact congrArg (·.metadata) hjk.job.rest

theorem answeredAlike_deleteJob (name : String) :
    AnsweredAlike (c := .deleteJob name) (d := .deleteJob name) Eq := by
  refine ⟨rfl, fun now s t hst => settle_alike hst ?_⟩
  refine (find_alike hst.jobs _ name).bind fun j k hjk => .ok ⟨rfl, ?_⟩
  have hgone := hst.podsOf_eq name
  exact {
    hst with
    jobs := hst.jobs.erase name
    pods := by
      simp only [removeJob, hgone]
      exact hst.pods.foldl_erase _
    rest := by
      simp only [removeJob, hgone]
      rw [hst.rest] }

theorem answeredAlike_applyCronJob {c d : Cluster.CronJob} (h : c.Alike d) (mode : WriteMode) :
    AnsweredAlike (c := .applyCronJob c mode) (d := .applyCronJob d mode)
      Cluster.CronJob.Alike := by
  refine ⟨rfl, fun now s t hst => settle_alike hst ?_⟩
  have hmetadata : d.metadata = c.metadata := congrArg (·.metadata) h.rest
  rw [hmetadata]
  refine (store_alike hst.cronJobs _ c.metadata h mode).bind fun _ _ hcronJobs => .ok ⟨h, ?_⟩
  exact { hst with cronJobs := hcronJobs, rest := by rw [hst.rest] }

theorem answeredAlike_getCronJob (name : String) :
    AnsweredAlike (c := .getCronJob name) (d := .getCronJob name) Cluster.CronJob.Alike :=
  .of_looking rfl (fun _ _ => ⟨rfl, rfl⟩) fun _ _ _ hst => find_alike hst.cronJobs _ name

theorem answeredAlike_listCronJobs (selector : String) :
    AnsweredAlike (c := .listCronJobs selector) (d := .listCronJobs selector)
      (List.Forall₂ Cluster.CronJob.Alike) :=
  .of_looking rfl (fun _ _ => ⟨rfl, rfl⟩) fun _ _ _ hst =>
    .ok (select_alike hst.cronJobs (fun _ _ h => congrArg (·.metadata) h.rest) selector)

theorem answeredAlike_deleteCronJob (name : String) :
    AnsweredAlike (c := .deleteCronJob name) (d := .deleteCronJob name) Eq := by
  refine ⟨rfl, fun now s t hst => settle_alike hst ?_⟩
  refine (find_alike hst.cronJobs _ name).bind fun _ _ _ => .ok ⟨rfl, ?_⟩
  exact { hst with cronJobs := hst.cronJobs.erase name, rest := by rw [hst.rest] }

theorem answeredAlike_applyDeployment {c d : Cluster.Deployment} (h : c.Alike d)
    (mode : WriteMode) :
    AnsweredAlike (c := .applyDeployment c mode) (d := .applyDeployment d mode)
      Cluster.Deployment.Alike := by
  refine ⟨rfl, fun now s t hst => settle_alike hst ?_⟩
  have hmetadata : d.metadata = c.metadata := congrArg (·.metadata) h.rest
  rw [hmetadata]
  refine (store_alike hst.deployments _ c.metadata h mode).bind fun _ _ hdeployments => .ok ⟨h, ?_⟩
  exact { hst with deployments := hdeployments, rest := by rw [hst.rest] }

theorem answeredAlike_getDeployment (name : String) :
    AnsweredAlike (c := .getDeployment name) (d := .getDeployment name)
      Cluster.Deployment.Alike :=
  .of_looking rfl (fun _ _ => ⟨rfl, rfl⟩) fun _ _ _ hst => find_alike hst.deployments _ name

theorem answeredAlike_listDeployments (selector : String) :
    AnsweredAlike (c := .listDeployments selector) (d := .listDeployments selector)
      (List.Forall₂ Cluster.Deployment.Alike) :=
  .of_looking rfl (fun _ _ => ⟨rfl, rfl⟩) fun _ _ _ hst =>
    .ok (select_alike hst.deployments (fun _ _ h => congrArg (·.metadata) h.rest) selector)

theorem answeredAlike_deleteDeployment (name : String) :
    AnsweredAlike (c := .deleteDeployment name) (d := .deleteDeployment name) Eq := by
  refine ⟨rfl, fun now s t hst => settle_alike hst ?_⟩
  refine (find_alike hst.deployments _ name).bind fun _ _ _ => .ok ⟨rfl, ?_⟩
  exact { hst with deployments := hst.deployments.erase name, rest := by rw [hst.rest] }

theorem answeredAlike_listPods (selector : String) :
    AnsweredAlike (c := .listPods selector) (d := .listPods selector)
      (List.Forall₂ Cluster.Pod.Alike) :=
  .of_looking rfl (fun _ _ => ⟨rfl, rfl⟩) fun _ _ _ hst =>
    .ok (select_alike hst.pods (fun _ _ h => congrArg (·.metadata) h.rest) selector)

theorem answeredAlike_podLogs (pod container : String) :
    AnsweredAlike (c := .podLogs pod container) (d := .podLogs pod container) Eq := by
  refine .of_looking rfl (fun _ _ => ⟨rfl, rfl⟩) fun now s t hst => ?_
  have hlogs : t.logs = s.logs := congrArg (·.logs) hst.rest
  simp only [answer, hlogs]
  exact .refl (fun _ => rfl) _

end Simulator

end TaskEngine
