import TaskEngine.Proofs.ManifestRoundTrip
import TaskEngine.Proofs.MountedSecrets

/-!
# Pods that a deployment finds

The orchestrator takes every pod that the selector of a deployment matches for one of its own, and
it refuses to change the selector of a deployment that is there. All workloads share one template of
pods, with the labels of the user and the task, so none of these may be in a selector: another user
who updates the deployment would change it, and a job of the task would lose its pods to it. The
name of the deployment is in a label of its own, which no other workload bears.
-/

namespace TaskEngine

namespace Cluster

/-- The labels of the pods of a template. -/
def PodTemplate.labels? (t : PodTemplate) : Option Labels := t.metadata.bind (·.labels)

/-- The labels of the pod that is made of a template for a job. -/
def PodTemplate.labelsFor (t : PodTemplate) (id : String) : Labels :=
  (t.labels?.getD ∅).insert Label.job id

/-- Whether the pods of a template tell whose they are and which task they run. -/
def PodTemplate.Tells (t : PodTemplate) (owner task : String) : Prop :=
  t.labels?.bind (·.get? Label.owner) = some owner ∧ t.labels?.bind (·.get? Label.task) = some task

/-- By what a deployment finds its pods. -/
def Deployment.selector? (d : Deployment) : Option LabelSelector := d.spec.map (·.selector)

namespace LabelSelector

/-- Whether labels have all that a selector demands. What demands nothing matches everything. -/
def Matches (s : LabelSelector) (labels : Option Labels) : Prop :=
  ∀ label ∈ (s.matchLabels.getD ∅).toList, labels.bind (·.get? label.1) = some label.2

instance (s : LabelSelector) (labels : Option Labels) : Decidable (s.Matches labels) :=
  inferInstanceAs (Decidable (∀ label ∈ (s.matchLabels.getD ∅).toList, _ = _))

/-- Whether a selector finds no pod of a template, not even one that bears the name of a job. -/
def Ignores (s : LabelSelector) (t : PodTemplate) : Prop :=
  ¬ s.Matches t.labels? ∧ ∀ id, ¬ s.Matches (some (t.labelsFor id))

/-- Of all pods that manifests describe, a selector finds those of the deployments of one name. -/
structure FindsOnly (s : LabelSelector) (name : String) : Prop where
  deployment : ∀ (config : EngineConfig) (w : Workload) (other : String) (replicas : Int),
    s.Matches (w.deployment config other replicas).template.labels? ↔ other = name
  job : ∀ (config : EngineConfig) (w : Workload), s.Ignores (w.job config).template
  cronJob : ∀ (config : EngineConfig) (w : Workload) (other schedule : String) (disabled : Bool),
    s.Ignores (w.cronJob config other schedule disabled).template

end LabelSelector

end Cluster

/-! ## Labels of pods -/

namespace Label

/-- No label of a workload names a deployment. -/
theorem deployment_ofWorkload (owner task : String) :
    (ofWorkload owner task).get? deployment = none := by
  simp [ofWorkload, Dict.ofList, Dict.insertAll, Label.owner, Label.task, deployment]

end Label

/-- The selector of the deployments of a name. -/
def deploymentSelector (name : String) : Cluster.LabelSelector :=
  { matchLabels := some (Label.ofDeployment name) }

/-- The selector of a deployment matches what bears its name. -/
theorem matches_deploymentSelector {name : String} {labels : Option Cluster.Labels} :
    (deploymentSelector name).Matches labels ↔
      labels.bind (·.get? Label.deployment) = some name :=
  List.forall_mem_singleton

/-- What names no deployment is ignored, also once it names a job. -/
theorem ignores_of_unnamed (name : String) {t : Cluster.PodTemplate} {labels : Cluster.Labels}
    (hlabels : t.labels? = some labels) (hunnamed : labels.get? Label.deployment = none) :
    (deploymentSelector name).Ignores t := by
  constructor
  · intro hmatches
    rw [matches_deploymentSelector, hlabels, Option.bind_some, hunnamed] at hmatches
    cases hmatches
  · intro id hmatches
    have hother : Label.job ≠ Label.deployment := by decide
    rw [matches_deploymentSelector, Option.bind_some, Cluster.PodTemplate.labelsFor, hlabels,
      Option.getD_some, Dict.get?_insert, if_neg hother, hunnamed] at hmatches
    cases hmatches

-- Neither a user nor a task of the name of the deployment counts.
example : ¬ (deploymentSelector "web").Matches (some (Label.ofWorkload "web" "web")) := by decide

namespace Workload

variable (config : EngineConfig) (w : Workload)

/-- The pods of a deployment bear its name beside the labels of the workload. -/
theorem labels_deployment (name : String) (replicas : Int) :
    (w.deployment config name replicas).template.labels? =
      some (w.labels.insert Label.deployment name) := rfl

/-- The selector finds the pods of the deployments of its name, and of these only. -/
theorem findsOnly_deploymentSelector (name : String) :
    (deploymentSelector name).FindsOnly name where
  deployment config w other replicas := by
    rw [matches_deploymentSelector, labels_deployment, Option.bind_some, Dict.get?_insert,
      if_pos rfl, Option.some.injEq]
  job _ w := ignores_of_unnamed name rfl (Label.deployment_ofWorkload w.owner w.task.name)
  cronJob _ w _ _ _ := ignores_of_unnamed name rfl (Label.deployment_ofWorkload w.owner w.task.name)

/-- The name of the deployment stands beside the labels of the workload and replaces none. -/
theorem tells_deployment (name : String) (replicas : Int) :
    (w.deployment config name replicas).template.Tells w.owner w.task.name := by
  have howner : Label.owner ≠ Label.deployment := by decide
  have htask : Label.task ≠ Label.deployment := by decide
  constructor
  · exact (Label.get?_insertAll_ofDeployment w.labels name howner).trans
      (Label.owner_ofWorkload w.owner w.task.name)
  · exact (Label.get?_insertAll_ofDeployment w.labels name htask).trans
      (Stores.task_ofWorkload w.owner w.task.name)

/-- All deployments of a name have one selector, whoever they are for and whatever they run. Of the
pods that manifests describe it finds theirs, and these still tell their owner and their task. -/
theorem deployment_finds_own (name : String) : ∃ selector : Cluster.LabelSelector,
    selector.FindsOnly name ∧
      ∀ (config : EngineConfig) (w : Workload) (replicas : Int),
        (w.deployment config name replicas).selector? = some selector ∧
          (w.deployment config name replicas).template.Tells w.owner w.task.name :=
  ⟨deploymentSelector name, findsOnly_deploymentSelector name, fun config w replicas =>
    ⟨rfl, w.tells_deployment config name replicas⟩⟩

end Workload

end TaskEngine
