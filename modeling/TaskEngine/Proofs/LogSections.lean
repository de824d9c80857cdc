import TaskEngine.Proofs.ResultProtocol

/-!
# Sections of logs

The output of a job is made of the logs of its started containers, pod after pod, and within a pod
the init containers before the main ones. Each log stands once, under a header line, and no other
log is asked for: one that is not there would fail the whole output. A container counts as started
by the first status of its name, if that is no waiting. The reader takes a container that waits for
started when no reason is given, so it reads what it should exactly if every container that waits
says why.
-/

namespace TaskEngine

open Engine

/-! ## Requests of a dialogue -/

namespace Dialogue

variable {Request σ : Type} {Reply : Request → Type} {α β : Type}
  {answer : (r : Request) → σ → Reply r × σ} {s t : σ}

/-- The requests that a dialogue puts to its surroundings, in order. -/
def requests (answer : (r : Request) → σ → Reply r × σ) :
    Dialogue Request Reply α → σ → List Request
  | .done _, _ => []
  | .ask r next, s => r :: (next (answer r s).1).requests answer (answer r s).2

/-- Going on with a result adds the requests of the rest. -/
theorem requests_followedBy (d : Dialogue Request Reply α)
    (next : Outcome α → Dialogue Request Reply β) (s : σ) :
    (d.followedBy next).requests answer s = d.requests answer s ++
      (next (d.run answer s).1).requests answer (d.run answer s).2 := by
  induction d generalizing s with
  | done result => rfl
  | ask r go ih => exact congrArg (List.cons r) (ih (answer r s).1 (answer r s).2)

theorem requests_bind_of_ok {d : Dialogue Request Reply α} {next : α → Dialogue Request Reply β}
    {a : α} (h : d.run answer s = (.ok a, t)) :
    (d >>= next).requests answer s = d.requests answer s ++ (next a).requests answer t := by
  refine (requests_followedBy d _ s).trans ?_
  rw [h]

/-- Where everything succeeds, each member of a list has had its request. -/
theorem requests_each {act : α → Dialogue Request Reply β} {request : α → Request}
    (hact : ∀ a s, (act a).requests answer s = [request a]) {as : List α} {bs : List β}
    (h : (each act as).run answer s = (.ok bs, t)) :
    (each act as).requests answer s = as.map request := by
  induction as generalizing s bs t with
  | nil => rfl
  | cons a rest ih =>
    obtain ⟨b, u, hfirst, h⟩ := run_bind_eq_ok.mp h
    obtain ⟨bs, v, hrest, -⟩ := run_bind_eq_ok.mp h
    rw [List.map_cons, each, requests_bind_of_ok hfirst, requests_bind_of_ok hrest, hact, ih hrest]
    exact congrArg (List.cons (request a)) (List.append_nil _)

end Dialogue

/-! ## Containers and their statuses -/

/-- The status of a container that counts: the first one of its name. -/
def firstStatus? (statuses : Option (List Cluster.ContainerStatus)) (container : String) :
    Option Cluster.ContainerStatus :=
  (statuses.getD []).find? fun status => status.name = container

/-- The containers of pods in order, the init containers of a pod before its main ones, each under
the names of pod and container and with the status that counts. -/
def containersOf (pods : List Cluster.Pod) :
    List ((String × String) × Option Cluster.ContainerStatus) :=
  pods.flatMap fun pod =>
    let name := pod.metadata.name.getD ""
    let status := pod.status.getD {}
    let spec := pod.spec.getD {}
    (spec.initContainers.getD []).map
        (fun c => ((name, c.name), firstStatus? status.initContainerStatuses c.name)) ++
      spec.containers.map fun c => ((name, c.name), firstStatus? status.containerStatuses c.name)

/-- Whether a container has a status that is no waiting. -/
def hasStarted (status : Option Cluster.ContainerStatus) : Bool :=
  status.any fun s => (s.state.bind (·.waiting)).isNone

/-- Whether a container waits without saying why. -/
def waitsSilently (status : Option Cluster.ContainerStatus) : Bool :=
  status.any fun s => (s.state.bind (·.waiting)).any (·.reason.isNone)

/-- The logs of the started containers of pods. -/
def dueLogs (pods : List Cluster.Pod) : List (String × String) :=
  ((containersOf pods).filter fun c => hasStarted c.2).map (·.1)

/-- Whether every container that waits says why. -/
def SayWhy (pods : List Cluster.Pod) : Prop :=
  ∀ c ∈ containersOf pods, waitsSilently c.2 = false

instance (pods : List Cluster.Pod) : Decidable (SayWhy pods) :=
  inferInstanceAs (Decidable (∀ c ∈ containersOf pods, waitsSilently c.2 = false))

/-- What waits has not started. -/
theorem hasStarted_of_waitsSilently {status : Option Cluster.ContainerStatus}
    (h : waitsSilently status = true) : hasStarted status = false := by
  obtain ⟨s, rfl, hsilent⟩ := (Option.any_eq_true _ _).mp h
  obtain ⟨waiting, hwaiting, -⟩ := (Option.any_eq_true _ _).mp hsilent
  simp [hasStarted, hwaiting]

/-- A container is taken for started if it has started, and also if it waits without saying why. -/
theorem isStarted_eq (statuses : Option (List Cluster.ContainerStatus)) (container : String) :
    isStarted statuses container = (hasStarted (firstStatus? statuses container) ||
      waitsSilently (firstStatus? statuses container)) := by
  rw [isStarted, firstStatus?]
  cases (statuses.getD []).find? fun status => status.name = container with
  | none => rfl
  | some status =>
    simp only [Option.any_some, hasStarted, waitsSilently, ContainerFault.waitingReason?]
    cases status.state.bind (·.waiting) <;> simp

theorem startedLogs_eq_filter (pods : List Cluster.Pod) :
    startedLogs pods =
      ((containersOf pods).filter fun c => hasStarted c.2 || waitsSilently c.2).map (·.1) := by
  rw [startedLogs, containersOf, List.filter_flatMap, List.map_flatMap]
  refine congrArg (List.flatMap · pods) (funext fun pod => ?_)
  rw [startedContainers]
  cases pod.spec with
  | none => rfl
  | some spec => simp [List.filter_map, Function.comp_def, isStarted_eq]

/-- The logs that are read are those that are due exactly if every container that waits says why. -/
theorem startedLogs_eq_dueLogs_iff {pods : List Cluster.Pod} :
    startedLogs pods = dueLogs pods ↔ SayWhy pods := by
  rw [startedLogs_eq_filter, dueLogs]
  constructor
  · intro heq c hc
    have hlength := congrArg List.length heq
    rw [List.length_map, List.length_map] at hlength
    have hsublist := List.monotone_filter_right (containersOf pods)
      (p := fun c => hasStarted c.2) (q := fun c => hasStarted c.2 || waitsSilently c.2)
      fun c hstarted => by simp [hstarted]
    have hsame := hsublist.eq_of_length hlength.symm
    rw [← Bool.not_eq_true]
    intro hsilent
    have hread : c ∈ (containersOf pods).filter fun c => hasStarted c.2 || waitsSilently c.2 :=
      List.mem_filter.mpr ⟨hc, by simp [hsilent]⟩
    rw [← hsame] at hread
    have hstarted := (List.mem_filter.mp hread).2
    rw [hasStarted_of_waitsSilently hsilent] at hstarted
    cases hstarted
  · intro hwhy
    have hsame := List.filter_congr (l := containersOf pods)
      (p := fun c => hasStarted c.2 || waitsSilently c.2) (q := fun c => hasStarted c.2)
      fun c hc => by rw [hwhy c hc, Bool.or_false]
    rw [hsame]

/-! ## Sections -/

/-- Whether a text is empty or ends its line. -/
def EndsLine (text : String) : Prop := text = "" ∨ ∃ lines, text = lines ++ "\n"

theorem EndsLine.append {front back : String} (hfront : EndsLine front) (hback : EndsLine back) :
    EndsLine (front ++ back) := by
  rcases hback with rfl | ⟨lines, rfl⟩
  · simpa using hfront
  · exact .inr ⟨front ++ lines, (String.append_assoc ..).symm⟩

/-- A text with a line end, unless it is empty or has one. -/
def ended (text : String) : String :=
  if text = "" ∨ text.toList.getLast? = some '\n' then text else text ++ "\n"

/-- Logs one after the other, each under a header line that names its pod and its container. -/
def labelled (texts : String → String → String) : List (String × String) → String
  | [] => ""
  | log :: rest =>
    "==> " ++ log.1 ++ "/" ++ log.2 ++ " <==\n" ++ ended (texts log.1 log.2) ++ labelled texts rest

theorem endsLine_ended (text : String) : EndsLine (ended text) := by
  rw [ended]
  split
  · rename_i h
    refine h.imp_right fun hlast => ?_
    obtain ⟨lines, hlines⟩ := List.getLast?_eq_some_iff.mp hlast
    refine ⟨String.ofList lines, String.toList_inj.mp ?_⟩
    simpa using hlines
  · exact .inr ⟨text, rfl⟩

/-- Labelled logs end their lines. -/
theorem endsLine_labelled (texts : String → String → String) (logs : List (String × String)) :
    EndsLine (labelled texts logs) := by
  induction logs with
  | nil => exact .inl rfl
  | cons log rest ih =>
    have hheader : EndsLine ("==> " ++ log.1 ++ "/" ++ log.2 ++ " <==\n") :=
      .inr ⟨"==> " ++ log.1 ++ "/" ++ log.2 ++ " <==", by simp [String.append_assoc]⟩
    exact (hheader.append (endsLine_ended _)).append ih

/-- A section is a header line and the log with a line end. -/
theorem logSection_eq_ended (pod container text : String) :
    logSection pod container text =
      "==> " ++ pod ++ "/" ++ container ++ " <==\n" ++ ended text := by
  rw [logSection, ended]
  cases hlast : text.toList.getLast? with
  | none =>
    have hempty : text = "" := String.toList_inj.mp (List.getLast?_eq_none_iff.mp hlast)
    simp [hempty]
  | some c =>
    have hne : text ≠ "" := by
      rintro rfl
      simp at hlast
    by_cases hc : c = '\n' <;> simp [hc, hne, String.append_assoc]

theorem sections_eq_labelled (texts : String → String → String) (logs : List (String × String)) :
    Extraction.sections texts logs = labelled texts logs := by
  induction logs with
  | nil => rfl
  | cons log rest ih => rw [Extraction.sections_cons, ih, labelled, logSection_eq_ended]

/-! ## Reading -/

section Reading

variable {σ : Type} {answer : (r : Request) → σ → r.Reply × σ} {s t : σ}
  {pods : List Cluster.Pod} {texts : String → String → String}

/-- The request for a log. -/
def logRequest (log : String × String) : Request := .workloads (.podLogs log.1 log.2)

theorem logRequest_injective : Function.Injective logRequest := by
  rintro ⟨pod, container⟩ ⟨other, name⟩ h
  cases h
  rfl

/-- For a section one log is requested, whether it is there or not. -/
theorem requests_readSection (log : String × String) (s : σ) :
    (readSection log).requests answer s = [logRequest log] := by
  change Dialogue.requests answer (Dialogue.followedBy _ _) s = _
  rw [Dialogue.requests_followedBy]
  rcases (Procedure.workloads (.podLogs log.1 log.2)).run answer s with ⟨_ | text, u⟩ <;> rfl

/-- Behind an output stand requests for the logs of all containers that are taken for started. -/
theorem requests_readLogs {output : String} (h : (readLogs pods).run answer s = (.ok output, t)) :
    (readLogs pods).requests answer s = (startedLogs pods).map logRequest := by
  obtain ⟨sections, u, hread, -⟩ := Dialogue.run_bind_eq_ok.mp h
  rw [readLogs, Dialogue.requests_bind_of_ok hread,
    Dialogue.requests_each (fun log s => requests_readSection log s) hread]
  exact List.append_nil _

/-- The logs of the started containers are read, each once and no others, and stand in the output
one after the other, each under a header at the start of a line. -/
structure Covers (answer : (r : Request) → σ → r.Reply × σ) (s : σ) (pods : List Cluster.Pod)
    (texts : String → String → String) : Prop where
  output : ((readLogs pods).run answer s).1 = .ok (labelled texts (dueLogs pods))
  /-- Every log that is due is requested, in order, and nothing else is. -/
  requests : (readLogs pods).requests answer s = (dueLogs pods).map logRequest
  /-- What stands before a header ends its line, and so does the whole output. -/
  lines : ∀ front, front <+: dueLogs pods → EndsLine (labelled texts front)

/-- Started containers are covered exactly if every container that waits says why. -/
theorem readLogs_covers_iff (h : ∀ log ∈ dueLogs pods,
      answer (.workloads (.podLogs log.1 log.2)) s = (.ok (texts log.1 log.2), s)) :
    Covers answer s pods texts ↔ SayWhy pods := by
  rw [← startedLogs_eq_dueLogs_iff]
  constructor
  · intro hcovers
    have hrun : (readLogs pods).run answer s =
        (.ok (labelled texts (dueLogs pods)), ((readLogs pods).run answer s).2) :=
      Prod.ext hcovers.output rfl
    have hread := requests_readLogs hrun
    rw [hcovers.requests] at hread
    exact (List.map_injective_iff.mpr logRequest_injective hread).symm
  · intro heq
    have hrun : (readLogs pods).run answer s = (.ok (labelled texts (dueLogs pods)), s) := by
      rw [run_readLogs (heq ▸ h), heq, sections_eq_labelled]
    refine ⟨congrArg Prod.fst hrun, ?_, fun front _ => endsLine_labelled texts front⟩
    rw [requests_readLogs hrun, heq]

end Reading

namespace World

/-- A greeting whose repository cannot be cloned, so its main container waits for its init
container. -/
def stranded : World := after .standard {} (greeting ++
  [.script { Script.initFailing (.exit 128) with initLogs := "fatal: no such branch" },
    .call (.createJob ⟨"alice", "local"⟩ "hello" none)])

/-- The log of the init container is read, and none of the container that waits for it. -/
theorem readLogs_covers_stranded :
    Covers answer stranded (stranded.podsOf "hello-00001" none)
        (fun _ _ => "fatal: no such branch") ∧
      dueLogs (stranded.podsOf "hello-00001" none) = [("hello-00001-pod", "init-hello")] := by
  have hwhy : SayWhy (stranded.podsOf "hello-00001" none) := by decide +kernel
  have hdue : dueLogs (stranded.podsOf "hello-00001" none) =
      [("hello-00001-pod", "init-hello")] := by decide +kernel
  have hoffers : Offers answer stranded "hello-00001" none (stranded.podsOf "hello-00001" none)
      fun _ _ => "fatal: no such branch" := offers (by decide +kernel) fun log hlog => by
    rw [startedLogs_eq_dueLogs_iff.mpr hwhy, hdue, List.mem_singleton] at hlog
    subst hlog
    decide +kernel
  refine ⟨(readLogs_covers_iff fun log hlog => hoffers.read log ?_).mpr hwhy, hdue⟩
  rwa [startedLogs_eq_dueLogs_iff.mpr hwhy]

/-- A pod whose container waits and does not say why. -/
def silentPod : Cluster.Pod where
  metadata :=
    { name := some "hello-abcde-pod", labels := some (Dict.ofList [(Label.job, "hello-abcde")]) }
  spec := some { containers := [{ name := "hello" }] }
  status := some {
    containerStatuses := some
      [{ name := "hello", image := "busybox", state := some { waiting := some {} } }] }

/-- A container that waits and does not say why is asked for a log. -/
theorem not_readLogs_covers :
    ¬ ∀ (w : World) (pods : List Cluster.Pod) (texts : String → String → String),
      (∀ log ∈ dueLogs pods,
        answer (.workloads (.podLogs log.1 log.2)) w = (.ok (texts log.1 log.2), w)) →
      Covers answer w pods texts := by
  intro hall
  let w : World := { workloads := ({} : Simulator).insertPod "hello-abcde-pod" silentPod ∅ }
  have hdue : dueLogs [silentPod] = [] := by decide
  have hcovers := hall w [silentPod] (fun _ _ => "") (by simp [hdue])
  have hasked : (readLogs [silentPod]).requests answer w =
      [logRequest ("hello-abcde-pod", "hello")] := rfl
  rw [hcovers.requests, hdue] at hasked
  cases hasked

end World

end TaskEngine
