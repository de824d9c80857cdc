import TaskEngine.Memory.Simulator
import TaskEngine.Proofs.Dict

/-!
# The orchestrator by its answers

What a submission makes of a job, what a read of its status leaves of it, and what a selection looks
at, each in one equation.
-/

namespace TaskEngine

namespace SimulatedJob

/-- What a read of its status leaves of a job. -/
def fixed (j : SimulatedJob) : Cluster.Meta × Option Cluster.JobSpec × Script :=
  (j.job.metadata, j.job.spec, j.script)

/-- Ending a job changes nothing but its status. -/
theorem fixed_advance (now : Instant) (j : SimulatedJob) : (j.advance now).fixed = j.fixed := by
  simp only [advance]
  split <;> rfl

/-- Reading the status of a job changes nothing else of it. -/
theorem fixed_read (now : Instant) (j : SimulatedJob) : (j.read now).fixed = j.fixed :=
  fixed_advance now _

end SimulatedJob

namespace Simulator

/-- What a submitted job becomes under a name. -/
def made (s : Simulator) (now : Instant) (job : Cluster.Job) (name : String) : SimulatedJob :=
  SimulatedJob.advance now {
    job := { job with
      metadata := { job.metadata with
        name := some name
        labels := job.metadata.labels <|> ((job.spec.getD {}).template.metadata.bind (·.labels)) }
      status := some { active := some 1, startTime := some now } }
    reads := 0
    script := s.script }

section Made

variable (s : Simulator) (now : Instant) (job : Cluster.Job) (name : String)

/-- A job bears the name that it was given. -/
theorem name_made : (s.made now job name).job.metadata.name = some name :=
  congrArg (·.1.name) (SimulatedJob.fixed_advance now _)

theorem spec_made : (s.made now job name).job.spec = job.spec :=
  congrArg (·.2.1) (SimulatedJob.fixed_advance now _)

/-- A job follows the script that is in force when it is made. -/
theorem script_made : (s.made now job name).script = s.script :=
  congrArg (·.2.2) (SimulatedJob.fixed_advance now _)

end Made

/-- The orchestrator with a submitted job under a name, and with its pod. -/
def withJob (s : Simulator) (now : Instant) (job : Cluster.Job) (name : String) : Simulator :=
  let template := (job.spec.getD {}).template
  { s.insertPod (s.podName name) (s.script.pod (s.podName name) name template)
      (s.script.logs template) with
    jobs := s.jobs.insert name (s.made now job name)
    created := s.created + 1
    mutations := s.mutations + 1 }

/-- A job is made under a name that is free. -/
theorem createJob_eq (s : Simulator) (now : Instant) (job : Cluster.Job) :
    s.createJob now job = do
      let name ← s.jobName job.metadata
      WriteMode.create.demand WorkloadCall.jobResource name (s.jobs.contains name)
      return ((s.made now job name).job, s.withJob now job name) := rfl

/-- An object that is stored is stored under its name. -/
theorem eq_insert_of_store {α : Type} {objects stored : Dict α} {resource name : String}
    {metadata : Cluster.Meta} {object : α} {mode : WriteMode} (hname : metadata.name = some name)
    (h : store objects resource metadata object mode = .ok stored) :
    stored = objects.insert name object := by
  rw [store, hname] at h
  cases hdemand : mode.demand resource name (objects.contains name) with
  | error e => simp [hdemand] at h
  | ok u =>
    simp only [hdemand] at h
    exact (Except.ok.inj h).symm

/-- Nothing is selected exactly when the selector accepts no object. -/
theorem select_eq_nil {α : Type} {objects : Dict α} {metadata : α → Cluster.Meta}
    {selector : String} : select objects metadata selector = [] ↔
      ∀ key object, objects.get? key = some object →
        Cluster.Selector.accepts selector (metadata object).labels = false := by
  rw [select, List.filter_eq_nil_iff]
  simp only [Bool.not_eq_true]
  constructor
  · exact fun h key object hget => h object (Dict.mem_values.mpr ⟨key, hget⟩)
  · intro h object hmem
    obtain ⟨key, hget⟩ := Dict.mem_values.mp hmem
    exact h key object hget

/-- The pods of a job are those that its selector accepts. -/
theorem mem_podsOf {s : Simulator} {id name : String} :
    name ∈ s.podsOf id ↔ ∃ pod, s.pods.get? name = some pod ∧
      Cluster.Selector.accepts (podSelector id none) pod.metadata.labels = true := by
  simp only [podsOf, List.mem_map, List.mem_filter, Prod.exists, exists_and_right, exists_eq_right,
    Dict.mem_toList]

end Simulator

end TaskEngine
