import TaskEngine.Proofs.InputGate
import TaskEngine.Proofs.Json.RoundTrip
import TaskEngine.Proofs.Listing

/-!
# Manifests read back

A scheduled task or a deployment is not stored as such. It is compiled into an object of the
orchestrator, and what is shown of it is read back from there: from the name and the labels of the
object or of its pods, from what the object says of itself, and from the text that a container is
handed. Nothing is lost on the way. The labels by which a deployment finds its pods are other ones
than those of a workload, and the text of an input that was admitted has been read before.
-/

namespace TaskEngine

open Engine

/-! ## Inputs read back -/

/-- An input that passes is read as some value. -/
theorem Schema.Passes.exists_parseInput {schema : Option Json} {text : Option String}
    (h : Schema.Passes schema text) : ∃ value, Schema.parseInput (text.getD "") = .ok value := by
  cases schema with
  | none => exact h
  | some schema =>
    obtain ⟨value, hread, -⟩ := Schema.validate_eq_ok_iff.mp h
    exact ⟨value, hread⟩

namespace ExtraVars

/-- The text of an object is not blank. -/
theorem isBlank_compact (vars : Dict Json) : Text.isBlank (Json.ofDict vars).compact = false := by
  have hbrace : (Json.ofDict vars).compact.toList =
      '\x7b' :: (Json.compactFields vars.entries ++ ['\x7d']) := by
    rw [Json.compact, String.toList_ofList, Json.ofDict, Json.compactChars]
    rfl
  rw [Text.isBlank, hbrace, List.all_cons]
  rfl

/-- The text of the input of a definition is never dropped as blank. -/
theorem filter_encode (vars : Option (Dict Json)) :
    (encode vars).filter (fun raw => !Text.isBlank raw) = encode vars := by
  cases vars with
  | none => rfl
  | some given =>
    rw [encode]
    split
    · rfl
    · simp [Option.filter, isBlank_compact]

/-- The text that a template delivers is found in it. -/
theorem ofTemplate_of_delivers {template : Cluster.PodTemplate} {spec : Cluster.PodSpec}
    {taskName : String} {text : Option String} (hspec : template.spec = some spec)
    (h : spec.Delivers taskName text) :
    ofTemplate template = text.filter fun raw => !Text.isBlank raw := by
  obtain ⟨main, hmain, -, hdelivers⟩ := h
  have hentries : (spec.containers.flatMap fun c => c.env.getD []) = main.env.getD [] := by
    simp [hmain]
  rw [ofTemplate, hspec, Option.getD_some, hentries]
  -- The variable is found exactly if the text is not left out.
  by_cases hblank : IsBlank text
  · have hnone : (main.env.getD []).find? (fun v => v.name = variableName) = none := by
      refine List.find?_eq_none.mpr fun v hv => ?_
      simpa using hdelivers.absent.mpr hblank v hv
    rw [hnone, hblank.filter_eq_none]
    rfl
  · simp only [IsBlank, not_forall] at hblank
    obtain ⟨raw, rfl, hfilled⟩ := hblank
    rw [Bool.not_eq_true] at hfilled
    simp [hdelivers.exact raw rfl hfilled, Option.filter, hfilled]

/-- The input of a definition that passes is read back, or dropped if it is empty. -/
theorem bind_decode_encode {schema : Option Json} {vars : Option (Dict Json)}
    (hpasses : Schema.Passes schema (encode vars))
    (hback : ∀ given, vars = some given → (Json.ofDict given).ReadsBack) :
    (encode vars).bind decode = vars.filter fun given => !given.isEmpty := by
  cases vars with
  | none => rfl
  | some given =>
    cases hempty : given.isEmpty with
    | true => simp [encode, Option.filter, hempty]
    | false =>
      have hencode : encode (some given) = some (Json.ofDict given).compact := by
        simp [encode, hempty]
      obtain ⟨value, hparse⟩ := hpasses.exists_parseInput
      rw [hencode, Option.getD_some, Schema.parseInput, isBlank_compact given] at hparse
      -- The text has been read, so what it is read as is the object itself.
      have hread : Json.read? (Json.ofDict given).compact = some (Json.ofDict given) := by
        cases hread : Json.read? (Json.ofDict given).compact with
        | none => simp [hread] at hparse
        | some again => rw [hback given rfl again hread]
      have hdict : (Json.ofDict given).dict? = some given :=
        congrArg some (Dict.ofList_eq fun _ _ => Dict.mem_toList)
      rw [hencode, Option.bind_some, decode, hread, Option.bind_some, hdict]
      simp [Option.filter, hempty]

end ExtraVars

/-! ## Objects read back -/

namespace Label

/-- What carries the labels of a workload names its owner. -/
theorem owner_ofWorkload (owner task : String) :
    (some (ofWorkload owner task) : Option Cluster.Labels).bind (·.get? Label.owner) =
      some owner := by
  simp [ofWorkload, Dict.ofList, Dict.insertAll, Label.owner, Label.task]

/-- The labels by which a deployment finds its pods leave all others as they are. -/
theorem get?_insertAll_ofDeployment (labels : Cluster.Labels) (name : String) {key : String}
    (hkey : key ≠ deployment) :
    (labels.insertAll (ofDeployment name).toList).get? key = labels.get? key := by
  change (labels.insert deployment name).get? key = _
  rw [Dict.get?_insert, if_neg hkey.symm]

end Label

namespace Workload

variable (config : EngineConfig) (w : Workload) (name : String)

/-- What is read back of a scheduled workload. -/
theorem ofCluster_cronJob (schedule : String) (disabled : Bool) :
    CronJob.ofCluster (w.cronJob config name schedule disabled) = {
      name, schedule, disabled
      owner := w.owner
      task := w.task.name
      extraVars := (ExtraVars.ofTemplate (w.podTemplate config "Never")).bind ExtraVars.decode } := by
  have howner : (w.cronJob config name schedule disabled).metadata.label Label.owner = w.owner :=
    Cluster.Meta.label_of_bind (Label.owner_ofWorkload w.owner w.task.name)
  have htask : (w.cronJob config name schedule disabled).metadata.label Label.task = w.task.name :=
    Cluster.Meta.label_of_bind (Stores.task_ofWorkload w.owner w.task.name)
  rw [CronJob.ofCluster, howner, htask]
  rfl

/-- What is read back of a deployed workload, although its pods have further labels. -/
theorem ofCluster_deployment (replicas : Int) :
    Deployment.ofCluster (w.deployment config name replicas) = {
      name, replicas
      owner := w.owner
      task := w.task.name
      extraVars := (ExtraVars.ofTemplate (w.podTemplate config "Always")).bind ExtraVars.decode } := by
  have howner : Cluster.labelOf ((w.deployment config name replicas).spec.getD {}).template.metadata
      Label.owner = w.owner :=
    Cluster.Meta.label_of_bind ((Label.get?_insertAll_ofDeployment _ name (by decide)).trans
      (Label.owner_ofWorkload w.owner w.task.name))
  have htask : Cluster.labelOf ((w.deployment config name replicas).spec.getD {}).template.metadata
      Label.task = w.task.name :=
    Cluster.Meta.label_of_bind ((Label.get?_insertAll_ofDeployment _ name (by decide)).trans
      (Stores.task_ofWorkload w.owner w.task.name))
  simp only [Deployment.ofCluster, howner, htask]
  rfl

end Workload

/-! ## Definitions written -/

namespace Engine

/-- Create or replace a scheduled task. -/
def putCronJob (config : EngineConfig) (principal : Principal) (c : CronJob) :
    WriteMode → Procedure CronJob
  | .create => createCronJob config principal c
  | .update => updateCronJob config principal c

/-- Create or replace a deployment. -/
def putDeployment (config : EngineConfig) (principal : Principal) (d : Deployment) :
    WriteMode → Procedure Deployment
  | .create => createDeployment config principal d
  | .update => updateDeployment config principal d

end Engine

namespace World

variable {w v : World}

/-- The input of a prepared workload is read back from its pods, or dropped if it is empty. -/
theorem extraVars_of_prepared {taskName : String} {vars : Option (Dict Json)} {ready : Preparation}
    (h : w.prepared taskName (ExtraVars.encode vars) = .ok ready)
    (hback : ∀ given, vars = some given → (Json.ofDict given).ReadsBack) (config : EngineConfig)
    (owner restartPolicy : String) :
    (ExtraVars.ofTemplate ((ready.workload owner).podTemplate config restartPolicy)).bind
      ExtraVars.decode = vars.filter fun given => !given.isEmpty := by
  obtain ⟨⟨task, runner, -, -, hpasses⟩, -, -⟩ := prepared_eq_ok h
  obtain ⟨spec, hspec, hdelivers⟩ := delivers_of_prepared h config owner restartPolicy
  rw [ExtraVars.ofTemplate_of_delivers hspec hdelivers, ExtraVars.filter_encode]
  exact ExtraVars.bind_decode_encode hpasses hback

/-- An applied scheduled job is shown, and stored under its name. -/
theorem eq_ok_of_run_applyCronJobCall (hcalm : w.failing = []) {object applied : Cluster.CronJob}
    {name : String} {mode : WriteMode} (hname : object.metadata.name = some name)
    (hrun : w.run (Procedure.workloads (.applyCronJob object mode)) = (.ok applied, v)) :
    applied = object ∧ v.workloads.cronJobs.get? name = some object := by
  rw [run_workloads_of_calm w hcalm, Simulator.answer] at hrun
  cases hstore : Simulator.store w.workloads.cronJobs WorkloadCall.cronJobResource object.metadata
      object mode with
  | error e =>
    rw [hstore] at hrun
    cases hrun
  | ok stored =>
    rw [hstore] at hrun
    cases hrun
    rw [Simulator.eq_insert_of_store hname hstore]
    exact ⟨rfl, (Dict.get?_insert ..).trans (if_pos rfl)⟩

/-- An applied deployment is shown, and stored under its name. -/
theorem eq_ok_of_run_applyDeploymentCall (hcalm : w.failing = [])
    {object applied : Cluster.Deployment} {name : String} {mode : WriteMode}
    (hname : object.metadata.name = some name)
    (hrun : w.run (Procedure.workloads (.applyDeployment object mode)) = (.ok applied, v)) :
    applied = object ∧ v.workloads.deployments.get? name = some object := by
  rw [run_workloads_of_calm w hcalm, Simulator.answer] at hrun
  cases hstore : Simulator.store w.workloads.deployments WorkloadCall.deploymentResource
      object.metadata object mode with
  | error e =>
    rw [hstore] at hrun
    cases hrun
  | ok stored =>
    rw [hstore] at hrun
    cases hrun
    rw [Simulator.eq_insert_of_store hname hstore]
    exact ⟨rfl, (Dict.get?_insert ..).trans (if_pos rfl)⟩

/-- A definition that was written was prepared, and what was submitted for it is shown. -/
theorem eq_ok_of_run_apply {α β : Type} (h : w.StoresHold) {valid : Outcome Unit}
    {taskName : String} {vars : Option String} {submit : Preparation → Procedure α}
    {metric : Metric} {view : α → β} {reply : β}
    (hrun : w.run (do
      Dialogue.lift valid
      let ready ← prepare taskName vars
      let applied ← submit ready
      Procedure.count metric
      return view applied) = (.ok reply, v)) :
    ∃ ready metrics applied u, w.prepared taskName vars = .ok ready ∧
      { w with metrics }.run (submit ready) = (.ok applied, u) ∧
      reply = view applied ∧ v.workloads = u.workloads := by
  -- Up to the submission nothing changes but the count of rejected input.
  obtain ⟨⟨⟩, judged, hvalid, hrun⟩ := run_bind_eq_ok.mp hrun
  obtain rfl : w = judged := congrArg (·.2) hvalid
  obtain ⟨ready, prepared, hprepare, hrun⟩ := run_bind_eq_ok.mp hrun
  obtain ⟨metrics, hprepared⟩ := run_prepare h taskName vars
  rw [hprepared] at hprepare
  obtain ⟨hready, rfl⟩ := Prod.mk.inj hprepare
  obtain ⟨applied, u, hsubmit, hrun⟩ := run_bind_eq_ok.mp hrun
  cases hrun
  exact ⟨ready, metrics, applied, u, hready, hsubmit, rfl, rfl⟩

/-- A scheduled task that was written is shown up to blanks and an empty input, and read back from an
object under its name. -/
theorem eq_ok_of_run_applyCronJob (hcalm : w.failing = []) {config : EngineConfig}
    {c reply : CronJob} {mode : WriteMode}
    (hback : ∀ given, c.extraVars = some given → (Json.ofDict given).ReadsBack)
    (hrun : w.run (applyCronJob config c mode) = (.ok reply, v)) :
    reply = { c with
        schedule := Text.trim c.schedule
        extraVars := c.extraVars.filter fun given => !given.isEmpty } ∧
      ∃ object, v.workloads.cronJobs.get? c.name = some object ∧
        CronJob.ofCluster object = reply := by
  have hholds := storesHold_of_calm hcalm
  obtain ⟨ready, metrics, applied, u, hready, hsubmit, rfl, hsame⟩ := eq_ok_of_run_apply hholds hrun
  obtain ⟨rfl, hstored⟩ := eq_ok_of_run_applyCronJobCall (w := { w with metrics }) hcalm rfl hsubmit
  have hname : ready.task.name = c.task := (prepared_eq_ok hready).2.1
  have hvars := extraVars_of_prepared hready hback config c.owner "Never"
  refine ⟨?_, _, hsame ▸ hstored, rfl⟩
  rw [Workload.ofCluster_cronJob, hvars]
  simp only [Preparation.workload, hname]

/-- A deployment that was written is shown up to an empty input, and read back from an object under
its name. -/
theorem eq_ok_of_run_applyDeployment (hcalm : w.failing = []) {config : EngineConfig}
    {d reply : Deployment} {mode : WriteMode}
    (hback : ∀ given, d.extraVars = some given → (Json.ofDict given).ReadsBack)
    (hrun : w.run (applyDeployment config d mode) = (.ok reply, v)) :
    reply = { d with extraVars := d.extraVars.filter fun given => !given.isEmpty } ∧
      ∃ object, v.workloads.deployments.get? d.name = some object ∧
        Deployment.ofCluster object = reply := by
  have hholds := storesHold_of_calm hcalm
  obtain ⟨ready, metrics, applied, u, hready, hsubmit, rfl, hsame⟩ := eq_ok_of_run_apply hholds hrun
  obtain ⟨rfl, hstored⟩ := eq_ok_of_run_applyDeploymentCall (w := { w with metrics }) hcalm rfl hsubmit
  have hname : ready.task.name = d.task := (prepared_eq_ok hready).2.1
  have hvars := extraVars_of_prepared hready hback config d.owner "Always"
  refine ⟨?_, _, hsame ▸ hstored, rfl⟩
  rw [Workload.ofCluster_deployment, hvars]
  simp only [Preparation.workload, hname]

/-! ## Definitions shown -/

/-- Something is shown when it is asked for by its name, and once among all. -/
structure Shows {α : Type} [DecidableEq α] (w : World) (get : Procedure α)
    (list : Procedure (List α)) (a : α) : Prop where
  get : (w.run get).1 = .ok a
  list : ∃ shown, (w.run list).1 = .ok shown ∧ shown.count a = 1

/-- What is read back from a stored scheduled job is shown. -/
theorem shows_cronJob (hcalm : w.failing = []) (hkeyed : w.stores.Keyed) (config : EngineConfig)
    {name : String} {object : Cluster.CronJob}
    (hstored : w.workloads.cronJobs.get? name = some object) :
    w.Shows (getCronJob name) (listCronJobs .all) (CronJob.ofCluster object) where
  get := by
    rw [getCronJob, run_bind, run_workloads_of_calm w hcalm, Simulator.answer,
      Simulator.find, hstored]
    rfl
  list := by
    have hall : (AuthorizedIds.ofList [AuthorizedIds.wildcard]).IsPlain := trivial
    obtain ⟨shown, hrun, hshows⟩ := (listsScope_of_keyed hkeyed hcalm config hall).cronJobs
    rw [ServiceCall.procedure, run_map] at hrun
    obtain ⟨found, hfound, hreply⟩ := Outcome.map_eq_ok.mp hrun
    cases hreply
    exact ⟨shown, hfound, hshows.count_eq_one hstored rfl⟩

/-- What is read back from a stored deployment is shown. -/
theorem shows_deployment (hcalm : w.failing = []) (hkeyed : w.stores.Keyed) (config : EngineConfig)
    {name : String} {object : Cluster.Deployment}
    (hstored : w.workloads.deployments.get? name = some object) :
    w.Shows (getDeployment name) (listDeployments .all) (Deployment.ofCluster object) where
  get := by
    rw [getDeployment, run_bind, run_workloads_of_calm w hcalm, Simulator.answer,
      Simulator.find, hstored]
    rfl
  list := by
    have hall : (AuthorizedIds.ofList [AuthorizedIds.wildcard]).IsPlain := trivial
    obtain ⟨shown, hrun, hshows⟩ := (listsScope_of_keyed hkeyed hcalm config hall).deployments
    rw [ServiceCall.procedure, run_map] at hrun
    obtain ⟨found, hfound, hreply⟩ := Outcome.map_eq_ok.mp hrun
    cases hreply
    exact ⟨shown, hfound, hshows.count_eq_one hstored rfl⟩

/-- A write that succeeds does so without its audit entry, after which no call fails and objects are
under their names still. -/
theorem eq_ok_of_run_write {α : Type} (hcalm : w.failing = []) (hkeyed : w.stores.Keyed)
    {config : EngineConfig} (call : ServiceCall) {reply : α → ServiceReply} {principal : Principal}
    {action : AuditAction} {category : ResourceKind} {target : String} {p : Procedure α} {a : α}
    (hcall : call.procedure config =
      reply <$> Procedure.audited principal action category target p)
    (hok : (w.run (Procedure.audited principal action category target p)).1 = .ok a) :
    ∃ v audit, w.run p = (.ok a, v) ∧
      w.run (Procedure.audited principal action category target p) = (.ok a, { v with audit }) ∧
      v.failing = [] ∧ v.stores.Keyed := by
  have hholds := storesHold_of_calm hcalm
  obtain ⟨v, audit, hrun, haudited⟩ := eq_ok_of_run_audited hok
  have hstill := (failing_run (w := w) p).trans hcalm
  have hstep := step_call hholds config call
  rw [hcall, run_map, haudited] at hstep
  rw [hrun] at hstill
  exact ⟨v, audit, hrun, haudited, hstill, hkeyed.step hstep⟩

/-- A scheduled task that is written is shown from then on. -/
theorem shows_putCronJob (hcalm : w.failing = []) (hkeyed : w.stores.Keyed) {config : EngineConfig}
    {principal : Principal} {c reply : CronJob} {mode : WriteMode}
    (hback : ∀ given, c.extraVars = some given → (Json.ofDict given).ReadsBack)
    (hok : (w.run (putCronJob config principal c mode)).1 = .ok reply) :
    reply = { c with
        owner := principal.name
        schedule := Text.trim c.schedule
        extraVars := c.extraVars.filter fun given => !given.isEmpty } ∧
      (w.run (putCronJob config principal c mode)).2.Shows (getCronJob c.name) (listCronJobs .all)
        reply := by
  obtain ⟨v, audit, happly, hput, hstill, hkept⟩ : ∃ v audit,
      w.run (applyCronJob config { c with owner := principal.name } mode) = (.ok reply, v) ∧
        w.run (putCronJob config principal c mode) = (.ok reply, { v with audit }) ∧
        v.failing = [] ∧ v.stores.Keyed := by
    cases mode with
    | create => exact eq_ok_of_run_write hcalm hkeyed (.createCronJob principal c) rfl hok
    | update => exact eq_ok_of_run_write hcalm hkeyed (.updateCronJob principal c) rfl hok
  obtain ⟨hreply, object, hstored, rfl⟩ :=
    eq_ok_of_run_applyCronJob (c := { c with owner := principal.name }) hcalm hback happly
  rw [hput]
  exact ⟨hreply, shows_cronJob (w := { v with audit }) hstill hkept config hstored⟩

/-- A deployment that is written is shown from then on. -/
theorem shows_putDeployment (hcalm : w.failing = []) (hkeyed : w.stores.Keyed)
    {config : EngineConfig} {principal : Principal} {d reply : Deployment} {mode : WriteMode}
    (hback : ∀ given, d.extraVars = some given → (Json.ofDict given).ReadsBack)
    (hok : (w.run (putDeployment config principal d mode)).1 = .ok reply) :
    reply = { d with
        owner := principal.name
        extraVars := d.extraVars.filter fun given => !given.isEmpty } ∧
      (w.run (putDeployment config principal d mode)).2.Shows (getDeployment d.name)
        (listDeployments .all) reply := by
  obtain ⟨v, audit, happly, hput, hstill, hkept⟩ : ∃ v audit,
      w.run (applyDeployment config { d with owner := principal.name } mode) = (.ok reply, v) ∧
        w.run (putDeployment config principal d mode) = (.ok reply, { v with audit }) ∧
        v.failing = [] ∧ v.stores.Keyed := by
    cases mode with
    | create => exact eq_ok_of_run_write hcalm hkeyed (.createDeployment principal d) rfl hok
    | update => exact eq_ok_of_run_write hcalm hkeyed (.updateDeployment principal d) rfl hok
  obtain ⟨hreply, object, hstored, rfl⟩ :=
    eq_ok_of_run_applyDeployment (d := { d with owner := principal.name }) hcalm hback happly
  rw [hput]
  exact ⟨hreply, shows_deployment (w := { v with audit }) hstill hkept config hstored⟩

/-- All along a session, once no call is made to fail any more, a definition that is written is shown
as it was given, up to its owner, to blanks around its schedule and to an empty input, and it is shown
from then on by its name and once among all. -/
theorem definition_read_back (config : EngineConfig) (events : List SessionEvent) {w : World}
    (hw : w = (World.after config {} events).calm) (principal : Principal) :
    (∀ (c : CronJob) (mode : WriteMode) (reply : CronJob),
      (∀ given, c.extraVars = some given → (Json.ofDict given).ReadsBack) →
      (w.run (putCronJob config principal c mode)).1 = .ok reply →
      reply = { c with
          owner := principal.name
          schedule := Text.trim c.schedule
          extraVars := c.extraVars.filter fun given => !given.isEmpty } ∧
        (w.run (putCronJob config principal c mode)).2.Shows (getCronJob c.name)
          (listCronJobs .all) reply) ∧
    ∀ (d : Deployment) (mode : WriteMode) (reply : Deployment),
      (∀ given, d.extraVars = some given → (Json.ofDict given).ReadsBack) →
      (w.run (putDeployment config principal d mode)).1 = .ok reply →
      reply = { d with
          owner := principal.name
          extraVars := d.extraVars.filter fun given => !given.isEmpty } ∧
        (w.run (putDeployment config principal d mode)).2.Shows (getDeployment d.name)
          (listDeployments .all) reply := by
  subst hw
  have hkeyed : (World.after config {} events).calm.stores.Keyed :=
    stores_after Stores.keyed_empty Stores.Keyed.step config events
  exact ⟨fun _ _ _ => shows_putCronJob rfl hkeyed, fun _ _ _ => shows_putDeployment rfl hkeyed⟩

/-- A task that greets by night, with blanks around its schedule. -/
def nightly : CronJob where
  name := "nightly"
  owner := ""
  task := "hello"
  schedule := " 0 4 * * * "
  disabled := true
  extraVars := some (Dict.ofList [("name", .str "bob")])

/-- A task that greets all day, with an empty input. -/
def ceaseless : Deployment where
  name := "ceaseless"
  owner := ""
  task := "hello"
  replicas := 2
  extraVars := some ∅

/-- A greeting that is deployed. -/
def deployed : List SessionEvent :=
  greeting ++ [.call (.createDeployment ⟨"bob", "local"⟩ ceaseless)]

/-- A greeting is scheduled, and the deployment of another user is replaced. -/
theorem definition_read_back_deployed :
    (∃ reply, ((World.after .standard {} deployed).calm.run
        (putCronJob .standard ⟨"alice", "local"⟩ nightly .create)).1 = .ok reply ∧
      reply = { nightly with
        owner := "alice"
        schedule := Text.trim nightly.schedule
        extraVars := nightly.extraVars.filter fun given => !given.isEmpty } ∧
      ((World.after .standard {} deployed).calm.run
        (putCronJob .standard ⟨"alice", "local"⟩ nightly .create)).2.Shows (getCronJob "nightly")
          (listCronJobs .all) reply) ∧
    ∃ reply, ((World.after .standard {} deployed).calm.run
        (putDeployment .standard ⟨"alice", "local"⟩ ceaseless .update)).1 = .ok reply ∧
      reply = { ceaseless with
        owner := "alice"
        extraVars := ceaseless.extraVars.filter fun given => !given.isEmpty } ∧
      ((World.after .standard {} deployed).calm.run
        (putDeployment .standard ⟨"alice", "local"⟩ ceaseless .update)).2.Shows
          (getDeployment "ceaseless") (listDeployments .all) reply := by
  have hall := definition_read_back .standard deployed rfl ⟨"alice", "local"⟩
  obtain ⟨scheduled, hscheduled⟩ := Outcome.isOk_iff.mp
    (show ((World.after .standard {} deployed).calm.run
      (putCronJob .standard ⟨"alice", "local"⟩ nightly .create)).1.isOk = true by decide +kernel)
  obtain ⟨replaced, hreplaced⟩ := Outcome.isOk_iff.mp
    (show ((World.after .standard {} deployed).calm.run
      (putDeployment .standard ⟨"alice", "local"⟩ ceaseless .update)).1.isOk = true by decide +kernel)
  refine ⟨⟨scheduled, hscheduled, hall.1 nightly .create scheduled (fun given hgiven => ?_) hscheduled⟩,
    ⟨replaced, hreplaced, hall.2 ceaseless .update replaced (fun given hgiven => ?_) hreplaced⟩⟩
  · cases hgiven
    exact .of_read? (by decide +kernel)
  · cases hgiven
    exact .of_read? (by decide +kernel)

end World

end TaskEngine
