import TaskEngine.Memory.Simulator
import TaskEngine.Proofs.Dict
import TaskEngine.Workload.Manifest
import TaskEngine.Workload.PodReport

/-!
# Objects alike up to tokens

A token shows in one place of a compiled object: in the clone address of the init container. Two
objects are alike if they are equal but for such tokens. Whatever the engine reads off an object is
the same for alike ones.
-/

namespace TaskEngine

/-- What is under related options, or the same default. -/
theorem rel_getD {α β : Type} {R : α → β → Prop} {a : Option α} {b : Option β}
    (h : Option.Rel R a b) {x : α} {y : β} (hdefault : R x y) : R (a.getD x) (b.getD y) := by
  cases h with
  | some hab => exact hab
  | none => exact hdefault

theorem rel_refl {α : Type} {R : α → α → Prop} (hR : ∀ a, R a a) (x : Option α) :
    Option.Rel R x x := by
  cases x with
  | some a => exact .some (hR a)
  | none => exact .none

/-- The line that clones a branch of an address with a token. -/
def Workload.cloneLine (branch url : String) (token : Option String) : String :=
  "git clone -b " ++ branch ++ " " ++ CloneUrl.withToken url token ++ " ."

namespace Cluster

/-! ## Alike objects -/

/-- Init containers that are the same, or clone the same branch of the same address with different
tokens. -/
structure Container.Alike (c d : Container) : Prop where
  command : d.command = c.command ∨ ∃ branch url token other,
    c.command = some (Workload.shell (Workload.cloneLine branch url token)) ∧
      d.command = some (Workload.shell (Workload.cloneLine branch url other))
  rest : d = { c with command := d.command }

/-- Pods that are the same but for the tokens in their init containers. -/
structure PodSpec.Alike (s t : PodSpec) : Prop where
  initContainers : Option.Rel (List.Forall₂ Container.Alike) s.initContainers t.initContainers
  rest : t = { s with initContainers := t.initContainers }

structure PodTemplate.Alike (s t : PodTemplate) : Prop where
  spec : Option.Rel PodSpec.Alike s.spec t.spec
  rest : t = { s with spec := t.spec }

structure JobSpec.Alike (s t : JobSpec) : Prop where
  template : PodTemplate.Alike s.template t.template
  rest : t = { s with template := t.template }

/-- Jobs that are the same but for tokens. -/
structure Job.Alike (j k : Job) : Prop where
  spec : Option.Rel JobSpec.Alike j.spec k.spec
  rest : k = { j with spec := k.spec }

structure JobTemplate.Alike (s t : JobTemplate) : Prop where
  spec : Option.Rel JobSpec.Alike s.spec t.spec
  rest : t = { s with spec := t.spec }

structure CronJobSpec.Alike (s t : CronJobSpec) : Prop where
  jobTemplate : JobTemplate.Alike s.jobTemplate t.jobTemplate
  rest : t = { s with jobTemplate := t.jobTemplate }

/-- Scheduled jobs that are the same but for tokens. -/
structure CronJob.Alike (c d : CronJob) : Prop where
  spec : Option.Rel CronJobSpec.Alike c.spec d.spec
  rest : d = { c with spec := d.spec }

structure DeploymentSpec.Alike (s t : DeploymentSpec) : Prop where
  template : PodTemplate.Alike s.template t.template
  rest : t = { s with template := t.template }

/-- Deployments that are the same but for tokens. -/
structure Deployment.Alike (c d : Deployment) : Prop where
  spec : Option.Rel DeploymentSpec.Alike c.spec d.spec
  rest : d = { c with spec := d.spec }

/-- Pods that are the same but for tokens. -/
structure Pod.Alike (p q : Pod) : Prop where
  spec : Option.Rel PodSpec.Alike p.spec q.spec
  rest : q = { p with spec := q.spec }

/-! ## What does not show tokens -/

/-- The containers of alike pods have the same names and images. -/
theorem map_eq_of_alike {α : Type} {f : Container → α}
    (hf : ∀ c command, f { c with command } = f c) {cs ds : Option (List Container)}
    (h : Option.Rel (List.Forall₂ Container.Alike) cs ds) :
    (ds.getD []).map f = (cs.getD []).map f := by
  have hall : List.Forall₂ Container.Alike (cs.getD []) (ds.getD []) := rel_getD h .nil
  rw [← List.forall₂_eq_eq_eq, List.forall₂_map_left_iff, List.forall₂_map_right_iff]
  refine hall.flip.imp fun d c hcd => ?_
  rw [hcd.rest, hf]

/-- The pods of alike templates are alike. -/
theorem PodTemplate.Alike.pod {s t : PodTemplate} (h : s.Alike t) :
    (s.spec.getD {}).Alike (t.spec.getD {}) := rel_getD h.spec ⟨.none, rfl⟩

/-- The templates of alike jobs are alike. -/
theorem Job.Alike.template {j k : Job} (h : j.Alike k) :
    (j.spec.getD {}).template.Alike (k.spec.getD {}).template :=
  (rel_getD h.spec (x := {}) (y := {}) ⟨⟨.none, rfl⟩, rfl⟩).template

end Cluster

/-- Alike jobs are shown the same. -/
theorem JobSummary.ofCluster_eq {j k : Cluster.Job} (h : j.Alike k) :
    JobSummary.ofCluster k = JobSummary.ofCluster j := by
  rw [h.rest]
  rfl

/-- Alike templates hand the same input to their containers. -/
theorem ExtraVars.ofTemplate_eq {s t : Cluster.PodTemplate} (h : s.Alike t) :
    ExtraVars.ofTemplate t = ExtraVars.ofTemplate s := by
  rw [ofTemplate, ofTemplate, h.pod.rest]

/-- Alike scheduled jobs are shown the same. -/
theorem CronJob.ofCluster_eq {c d : Cluster.CronJob} (h : c.Alike d) :
    CronJob.ofCluster d = CronJob.ofCluster c := by
  have hspec : (c.spec.getD {}).Alike (d.spec.getD {}) :=
    rel_getD h.spec ⟨⟨.none, rfl⟩, rfl⟩
  have hjob : ((c.spec.getD {}).jobTemplate.spec.getD {}).Alike
      ((d.spec.getD {}).jobTemplate.spec.getD {}) :=
    rel_getD hspec.jobTemplate.spec ⟨⟨.none, rfl⟩, rfl⟩
  simp only [ofCluster, ExtraVars.ofTemplate_eq hjob.template]
  have hmetadata : d.metadata = c.metadata := congrArg (·.metadata) h.rest
  have hschedule := congrArg (·.schedule) hspec.rest
  have hsuspend := congrArg (·.suspend) hspec.rest
  simp only at hschedule hsuspend
  rw [hmetadata, hschedule, hsuspend]

/-- Alike deployments are shown the same. -/
theorem Deployment.ofCluster_eq {c d : Cluster.Deployment} (h : c.Alike d) :
    Deployment.ofCluster d = Deployment.ofCluster c := by
  have hspec : (c.spec.getD {}).Alike (d.spec.getD {}) :=
    rel_getD h.spec ⟨⟨.none, rfl⟩, rfl⟩
  simp only [ofCluster, ExtraVars.ofTemplate_eq hspec.template]
  have hmetadata : d.metadata = c.metadata := congrArg (·.metadata) h.rest
  have htemplate := congrArg (·.metadata) hspec.template.rest
  have hreplicas := congrArg (·.replicas) hspec.rest
  simp only at htemplate hreplicas
  rw [hmetadata, htemplate, hreplicas]

/-- The same containers have started in alike pods. -/
theorem startedContainers_eq {p q : Cluster.Pod} (h : p.Alike q) :
    startedContainers q = startedContainers p := by
  obtain ⟨metadata, spec, status⟩ := p
  obtain ⟨metadata', spec', status'⟩ := q
  obtain ⟨hspec, hrest⟩ := h
  cases hrest
  cases hspec with
  | none => rfl
  | some hspec =>
    have hnames := Cluster.map_eq_of_alike (f := (·.name)) (fun _ _ => rfl) hspec.initContainers
    have hcontainers := congrArg (·.containers) hspec.rest
    simp only at hcontainers
    simp only [startedContainers, hnames, hcontainers]

/-- The same logs are read of alike pods. -/
theorem startedLogs_eq {ps qs : List Cluster.Pod} (h : List.Forall₂ Cluster.Pod.Alike ps qs) :
    startedLogs qs = startedLogs ps := by
  induction h with
  | nil => rfl
  | @cons p q ps qs hhead _ ih =>
    have hmetadata : q.metadata = p.metadata := congrArg (·.metadata) hhead.rest
    rw [startedLogs, startedLogs, List.flatMap_cons, List.flatMap_cons, startedContainers_eq hhead,
      hmetadata]
    exact congrArg _ ih

/-- The same faults are found in alike pods. -/
theorem ContainerFault.ofPods?_eq {ps qs : List Cluster.Pod}
    (h : List.Forall₂ Cluster.Pod.Alike ps qs) :
    ContainerFault.ofPods? qs = ContainerFault.ofPods? ps := by
  induction h with
  | nil => rfl
  | @cons p q ps qs hhead _ ih =>
    have hstatus : q.status = p.status := congrArg (·.status) hhead.rest
    have hpod : ofPod? q = ofPod? p := by rw [ofPod?, ofPod?, hstatus]
    rw [ofPods?, ofPods?, List.findSome?_cons, List.findSome?_cons, hpod]
    split
    · rfl
    · exact ih

/-! ## Compiled objects -/

namespace Workload

/-- Templates compiled with different tokens are alike. -/
theorem podTemplate_alike (config : EngineConfig) (w : Workload) (token : Option String)
    (restartPolicy : String) : (w.podTemplate config restartPolicy).Alike
      ({ w with token }.podTemplate config restartPolicy) where
  spec := by
    refine .some ⟨.some (.cons ⟨.inr ?_, rfl⟩ .nil), rfl⟩
    exact ⟨w.runner.effectiveBranch, w.runner.gitUrl, w.token, token, rfl, rfl⟩
  rest := rfl

/-- Jobs compiled with different tokens are alike. -/
theorem job_alike (config : EngineConfig) (w : Workload) (token : Option String) :
    (w.job config).Alike ({ w with token }.job config) :=
  ⟨.some ⟨w.podTemplate_alike config token _, rfl⟩, rfl⟩

/-- Scheduled jobs compiled with different tokens are alike. -/
theorem cronJob_alike (config : EngineConfig) (w : Workload) (token : Option String)
    (name schedule : String) (disabled : Bool) : (w.cronJob config name schedule disabled).Alike
      ({ w with token }.cronJob config name schedule disabled) :=
  ⟨.some ⟨⟨.some ⟨w.podTemplate_alike config token _, rfl⟩, rfl⟩, rfl⟩, rfl⟩

/-- Deployments compiled with different tokens are alike. -/
theorem deployment_alike (config : EngineConfig) (w : Workload) (token : Option String)
    (name : String) (replicas : Int) : (w.deployment config name replicas).Alike
      ({ w with token }.deployment config name replicas) :=
  ⟨.some ⟨⟨(w.podTemplate_alike config token _).spec, rfl⟩, rfl⟩, rfl⟩

end Workload

/-! ## Simulated pods -/

namespace Script

/-- The statuses in alike pods are the same. -/
theorem podStatus_eq (s : Script) {spec other : Cluster.PodSpec} (h : spec.Alike other) :
    s.podStatus other = s.podStatus spec := by
  have hcontainers := congrArg (·.containers) h.rest
  simp only at hcontainers
  rw [podStatus, podStatus, hcontainers,
    Cluster.map_eq_of_alike (f := statusOf (state s.initFailure s.isOver)) (fun _ _ => rfl)
      h.initContainers]

/-- The pods of alike templates are alike. -/
theorem pod_alike (s : Script) (podName jobName : String) {t u : Cluster.PodTemplate}
    (h : t.Alike u) : (s.pod podName jobName t).Alike (s.pod podName jobName u) where
  spec := .some h.pod
  rest := by
    have hmetadata : u.metadata = t.metadata := congrArg (·.metadata) h.rest
    simp only [pod, hmetadata, s.podStatus_eq h.pod]

/-- The pods of alike templates have the same logs. -/
theorem logs_eq (s : Script) {t u : Cluster.PodTemplate} (h : t.Alike u) : s.logs u = s.logs t := by
  have hcontainers := congrArg (·.containers) h.pod.rest
  simp only at hcontainers
  simp only [logs, hcontainers, Cluster.map_eq_of_alike (f := fun c => (c.name, s.initLogs))
    (fun _ _ => rfl) h.pod.initContainers]

end Script

end TaskEngine
