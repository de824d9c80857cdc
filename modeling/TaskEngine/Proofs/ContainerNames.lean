import TaskEngine.Proofs.Engine.Writes
import TaskEngine.Proofs.Selector
import TaskEngine.Workload.Manifest

/-!
# Names of containers

Both containers of a pod are named after the task, one of them with a prefix. The orchestrator takes
a container only under a single label of at most 63 characters, while a task may bear any resource
name: several labels with dots between them, and up to 253 bytes. So the pods of a valid task can be
launched exactly if its name is one label and leaves room for the prefix.
-/

namespace TaskEngine

namespace Cluster

/-- The length limit of the name of a container. -/
def maxContainerName : Nat := 63

/-- A name under which the orchestrator takes a container: lower-case letters, digits and hyphens,
not too many of them, and no hyphen at either end. -/
structure IsContainerName (name : String) : Prop where
  short : name.length ≤ maxContainerName
  chars : ∀ c ∈ name.toList, Name.isAlnum c = true ∨ c = '-'
  first : ∃ c ∈ name.toList.head?, Name.isAlnum c = true
  last : ∃ c ∈ name.toList.getLast?, Name.isAlnum c = true

/-- The names of the containers of a template, of the init containers first. -/
def PodTemplate.containerNames (t : PodTemplate) : List String :=
  let spec := t.spec.getD {}
  (spec.initContainers.getD [] ++ spec.containers).map (·.name)

/-- Containers are taken under a single label that is not too long. -/
theorem isContainerName_iff {name : String} :
    IsContainerName name ↔ name.length ≤ maxContainerName ∧ Name.isLabel name.toList = true := by
  have hlabel : Name.isLabel name.toList = true ↔
      ((∀ c ∈ name.toList, Name.isAlnum c = true ∨ c = '-') ∧
        ∃ c ∈ name.toList.head?, Name.isAlnum c = true) ∧
          ∃ c ∈ name.toList.getLast?, Name.isAlnum c = true := by
    simp [Name.isLabel_eq, Name.isLabelChar, Option.any_eq_true]
  rw [hlabel]
  exact ⟨fun h => ⟨h.short, ⟨h.chars, h.first⟩, h.last⟩,
    fun h => ⟨h.1, h.2.1.1, h.2.1.2, h.2.2⟩⟩

instance (name : String) : Decidable (IsContainerName name) :=
  decidable_of_iff _ isContainerName_iff.symm

/-- There is no dot in the name of a container. -/
theorem IsContainerName.dot_notMem {name : String} (h : IsContainerName name) :
    '.' ∉ name.toList := by
  intro hdot
  rcases h.chars '.' hdot with halnum | hhyphen
  · exact absurd halnum (by decide)
  · exact absurd hhyphen (by decide)

end Cluster

/-! ## Labels -/

namespace Name

/-- A name without a dot is one label. -/
theorem isLabel_of_isLegal {name : String} (h : isLegal name = true) (hdot : '.' ∉ name.toList) :
    isLabel name.toList = true := by
  rw [isLegal, Bool.and_eq_true, Text.splitAll_of_not_mem hdot] at h
  exact List.all_eq_true.mp h.2 _ (List.mem_singleton_self _)

/-- A label with a label and a hyphen in front of it is a label. -/
theorem isLabel_append {front back : List Char} (hfront : isLabel front = true)
    (hback : isLabel back = true) : isLabel (front ++ '-' :: back) = true := by
  simp only [isLabel_eq, Bool.and_eq_true] at hfront hback ⊢
  obtain ⟨⟨hchars, hfirst⟩, -⟩ := hfront
  obtain ⟨⟨hmore, -⟩, hlast⟩ := hback
  obtain ⟨c, front, rfl⟩ : ∃ c rest, front = c :: rest := by
    cases front with
    | nil => cases hfirst
    | cons c rest => exact ⟨c, rest, rfl⟩
  obtain ⟨d, back, rfl⟩ : ∃ d rest, back = d :: rest := by
    cases back with
    | nil => cases hlast
    | cons d rest => exact ⟨d, rest, rfl⟩
  refine ⟨⟨?_, hfirst⟩, ?_⟩
  · rw [List.all_append, hchars, List.all_cons, hmore]
    decide
  · rwa [List.getLast?_append, List.getLast?_cons_cons, Option.or_of_isSome]
    simp [List.getLast?_cons]

end Name

/-! ## Names after a task -/

namespace Workload

variable (config : EngineConfig) (w : Workload) (restartPolicy : String)

theorem containerNames_podTemplate :
    (w.podTemplate config restartPolicy).containerNames = [initName w.task.name, w.task.name] := rfl

/-- The prefix takes five characters. -/
theorem length_initName (taskName : String) : (initName taskName).length = taskName.length + 5 := by
  rw [initName, String.length_append, Nat.add_comm]
  rfl

/-- Both containers can be named after a resource exactly if its name is one label and leaves room for
the prefix. -/
theorem isContainerName_initName_iff {taskName : String} (h : Name.isLegal taskName = true) :
    (Cluster.IsContainerName (initName taskName) ∧ Cluster.IsContainerName taskName) ↔
      '.' ∉ taskName.toList ∧ taskName.length ≤ 58 := by
  have hroom : (initName taskName).length ≤ Cluster.maxContainerName ↔ taskName.length ≤ 58 := by
    rw [length_initName, Cluster.maxContainerName]
    omega
  constructor
  · rintro ⟨hinit, hmain⟩
    exact ⟨hmain.dot_notMem, hroom.mp hinit.short⟩
  · rintro ⟨hdot, hshort⟩
    have hlabel := Name.isLabel_of_isLegal h hdot
    have hword : Name.isLabel "init".toList = true := by decide
    have hlist : (initName taskName).toList = "init".toList ++ '-' :: taskName.toList := by
      rw [initName, String.toList_append]
      rfl
    have hprefixed : Name.isLabel (initName taskName).toList = true :=
      hlist ▸ Name.isLabel_append hword hlabel
    refine ⟨Cluster.isContainerName_iff.mpr ⟨hroom.mpr hshort, hprefixed⟩,
      Cluster.isContainerName_iff.mpr ⟨?_, hlabel⟩⟩
    exact hshort.trans (by decide)

/-- The two containers of a valid task have different names, and the orchestrator takes both of them
exactly if the name of the task is a single label of at most 58 characters. -/
theorem containers_named_iff {w : Workload} (hvalid : w.task.validate = .ok ())
    (config : EngineConfig) (restartPolicy : String) :
    (w.podTemplate config restartPolicy).containerNames.Nodup ∧
      ((∀ name ∈ (w.podTemplate config restartPolicy).containerNames,
          Cluster.IsContainerName name) ↔
        '.' ∉ w.task.name.toList ∧ w.task.name.length ≤ 58) := by
  have hlegal : Name.isLegal w.task.name = true := (Task.validate_eq_ok.mp hvalid).1
  rw [containerNames_podTemplate]
  constructor
  · have hlonger : initName w.task.name ≠ w.task.name := fun heq => by
      have hlength := length_initName w.task.name
      rw [heq] at hlength
      omega
    simpa using hlonger
  · rw [← isContainerName_initName_iff hlegal]
    simp

/-- A greeting under a name of its own. -/
def greetingNamed (name : String) : Workload where
  runner :=
    { name := "shell", image := "busybox", gitUrl := "https://example.org/greetings.git"
      branch := "", token := none }
  task :=
    { name, runner := "shell", command := "echo hello", synchronous := false, schema := none
      secret := none }
  owner := "alice"
  extraVars := none
  token := none

/-- As long a name as there may be. -/
def longestName : String := "greetings-of-the-night-shift-to-all-who-start-in-the-early"

/-- A name of one label serves both containers even if it takes all the room. -/
theorem containers_named_iff_longest :
    (greetingNamed longestName).task.validate = .ok () ∧ longestName.length = 58 ∧
      ((greetingNamed longestName).podTemplate .standard "Never").containerNames.Nodup ∧
      ∀ name ∈ ((greetingNamed longestName).podTemplate .standard "Never").containerNames,
        Cluster.IsContainerName name := by
  have hvalid : (greetingNamed longestName).task.validate = .ok () := by decide +kernel
  obtain ⟨hdiffer, hnamed⟩ := containers_named_iff hvalid .standard "Never"
  exact ⟨hvalid, by decide, hdiffer, hnamed.mpr ⟨by decide, by decide⟩⟩

/-- A valid task whose name has two labels has containers that the orchestrator does not take. -/
theorem not_containers_named :
    ¬ ∀ w : Workload, w.task.validate = .ok () →
      ∀ name ∈ (w.podTemplate .standard "Never").containerNames, Cluster.IsContainerName name := by
  intro hall
  have hmain : "nightly.v2" ∈
      ((greetingNamed "nightly.v2").podTemplate .standard "Never").containerNames := by
    rw [containerNames_podTemplate]
    exact List.mem_of_getLast? rfl
  exact (hall (greetingNamed "nightly.v2") (by decide +kernel) "nightly.v2" hmain).dot_notMem
    (by decide)

end Workload

end TaskEngine
