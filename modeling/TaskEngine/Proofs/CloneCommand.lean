import TaskEngine.Proofs.Engine.Definitions
import TaskEngine.Proofs.Marks
import TaskEngine.Proofs.SecretStore
import TaskEngine.Proofs.Words

/-!
# The command that clones

The command line of the init container is made of the branch, the address and the token of a runner
without any quotes. It keeps its six words for every runner that passes its check, as long as no token
is spliced into the address or the token would pass the check of the address itself. Nothing asks that
of a token: every one that is not empty and no stand-in is stored.
-/

namespace TaskEngine

open Engine

/-! ## Texts that survive a shell -/

namespace Runner

theorem hasShellSyntax_eq_false_iff {text : String} :
    hasShellSyntax text = false ↔
      ∀ c ∈ text.toList, Text.isBlankChar c = false ∧ c ∉ shellMetacharacters := by
  simp [hasShellSyntax, List.any_eq_false]

theorem hasShellSyntax_append (a b : String) :
    hasShellSyntax (a ++ b) = (hasShellSyntax a || hasShellSyntax b) := by
  rw [hasShellSyntax, String.toList_append, List.any_append]
  rfl

/-- A valid runner has an address, and neither it nor the branch means anything to a shell. -/
theorem plain_of_validate {r : Runner} (h : r.validate = .ok ()) :
    r.gitUrl ≠ "" ∧ hasShellSyntax r.gitUrl = false ∧ hasShellSyntax r.effectiveBranch = false := by
  rw [← validate_effectiveBranch r r.token] at h
  have hfindings := (validate_eq_ok.mp h).2
  simp only [findings, List.append_eq_nil_iff] at hfindings
  obtain ⟨⟨-, hurl⟩, hbranch⟩ := hfindings
  have hblank : Text.isBlank r.gitUrl = false := by
    by_contra hblank
    rw [Bool.not_eq_false] at hblank
    simp [hblank] at hurl
  refine ⟨Text.ne_empty_of_isBlank_eq_false hblank, ?_, ?_⟩
  · by_contra hshell
    rw [Bool.not_eq_false] at hshell
    simp [hblank, hshell] at hurl
  · by_contra hshell
    rw [Bool.not_eq_false] at hshell
    simp [hshell] at hbranch

end Runner

namespace CloneUrl

/-- Whether an address has a place for a token. -/
def HasScheme (url : String) : Prop := schemeMark.toList <:+: url.toList

theorem withToken_empty (url : String) : withToken url (some "") = url := rfl

/-- A token goes behind the first scheme mark. -/
theorem withToken_of_hasScheme {url token : String} (hurl : HasScheme url) (htoken : token ≠ "") :
    ∃ front back, url = front ++ schemeMark ++ back ∧
      withToken url (some token) = front ++ (schemeMark ++ token ++ ":@") ++ back := by
  have hwith : withToken url (some token) =
      Text.replaceFirst schemeMark (schemeMark ++ token ++ ":@") url :=
    if_neg (by simpa using htoken)
  rw [hwith, Text.replaceFirst, Text.splitOnce?]
  cases hcut : Text.cutFirst? schemeMark.toList url.toList with
  | none => exact absurd hurl (Text.free_of_cutFirst?_eq_none hcut)
  | some parts =>
    refine ⟨String.ofList parts.1, String.ofList parts.2, ?_, rfl⟩
    apply String.toList_inj.mp
    simpa using Text.eq_of_cutFirst? hcut

/-- Without a place for it, a token shows nowhere. -/
theorem withToken_of_not_hasScheme {url : String} (hurl : ¬ HasScheme url)
    (token : Option String) : withToken url token = url := by
  have hcut : Text.cutFirst? schemeMark.toList url.toList = none := by
    by_contra hsome
    obtain ⟨⟨front, back⟩, hcut⟩ := Option.ne_none_iff_exists'.mp hsome
    exact hurl ⟨front, back, by rw [Text.eq_of_cutFirst? hcut, List.append_assoc]⟩
  rw [withToken.eq_def]
  split
  · rfl
  · split
    · rfl
    · rw [Text.replaceFirst, Text.splitOnce?, hcut]
      rfl

theorem withToken_ne_empty {url : String} (hurl : url ≠ "") (token : Option String) :
    withToken url token ≠ "" := by
  by_cases hscheme : HasScheme url
  · cases token with
    | none => exact hurl
    | some token =>
      by_cases htoken : token = ""
      · rwa [htoken, withToken_empty]
      · obtain ⟨front, back, -, hwith⟩ := withToken_of_hasScheme hscheme htoken
        simp [hwith, htoken]
  · rwa [withToken_of_not_hasScheme hscheme]

/-- With a token, an address that survives a shell still does exactly if the token does. -/
theorem hasShellSyntax_withToken {url : String} (hurl : Runner.hasShellSyntax url = false)
    (token : Option String) :
    Runner.hasShellSyntax (withToken url token) = false ↔
      ∀ t ∈ token, HasScheme url → Runner.hasShellSyntax t = false := by
  by_cases hscheme : HasScheme url
  · cases token with
    | none => simpa [withToken] using hurl
    | some token =>
      by_cases htoken : token = ""
      · have hempty : Runner.hasShellSyntax "" = false := by decide
        simp [htoken, withToken_empty, hurl, hempty]
      · obtain ⟨front, back, hparts, hwith⟩ := withToken_of_hasScheme hscheme htoken
        rw [hparts] at hurl
        simp only [Runner.hasShellSyntax_append, Bool.or_eq_false_iff] at hurl
        obtain ⟨⟨hfront, hmark⟩, hback⟩ := hurl
        have hend : Runner.hasShellSyntax ":@" = false := by decide
        simp [hwith, Runner.hasShellSyntax_append, hfront, hmark, hback, hend, hscheme]
  · simp [withToken_of_not_hasScheme hscheme, hurl, hscheme]

end CloneUrl

/-! ## The command line of the init container -/

namespace Cluster.PodTemplate

/-- The command lines of the init containers. -/
def initCommands (template : PodTemplate) : List (List String) :=
  ((template.spec.bind (·.initContainers)).getD []).filterMap (·.command)

end Cluster.PodTemplate

namespace Workload

/-- The words that the command that clones is to have. -/
def cloneWords (w : Workload) : List String :=
  ["git", "clone", "-b", w.runner.effectiveBranch,
    CloneUrl.withToken w.runner.gitUrl w.token, "."]

/-- Whether the one init container runs a shell command that splits into the words it is to have, of
which none means anything to the shell. -/
def CloneSurvives (config : EngineConfig) (w : Workload) (restartPolicy : String) : Prop :=
  ∃ command, (w.podTemplate config restartPolicy).initCommands = [shell command] ∧
    Text.words command = w.cloneWords ∧
    ∀ word ∈ w.cloneWords, ∀ c ∈ word.toList, c ∉ Runner.shellMetacharacters

theorem cloneSurvives_iff {config : EngineConfig} {w : Workload} {restartPolicy : String} :
    w.CloneSurvives config restartPolicy ↔ Text.words w.cloneCommand = w.cloneWords ∧
      ∀ word ∈ w.cloneWords, ∀ c ∈ word.toList, c ∉ Runner.shellMetacharacters := by
  have hcommands : ∀ command, (w.podTemplate config restartPolicy).initCommands = [shell command] ↔
      w.cloneCommand = command := by
    intro command
    change [shell w.cloneCommand] = [shell command] ↔ _
    simp [shell]
  simp only [CloneSurvives, hcommands, exists_eq_left']

/-- The command has its words if each of them is one. -/
theorem words_cloneCommand {w : Workload}
    (hbranch : Runner.hasShellSyntax w.runner.effectiveBranch = false)
    (hne : CloneUrl.withToken w.runner.gitUrl w.token ≠ "")
    (hurl : Runner.hasShellSyntax (CloneUrl.withToken w.runner.gitUrl w.token) = false) :
    Text.words w.cloneCommand = w.cloneWords := by
  have hplain : ∀ {text : String}, Runner.hasShellSyntax text = false →
      ∀ c ∈ text.toList, Text.isBlankChar c = false := fun htext c hc =>
    (Runner.hasShellSyntax_eq_false_iff.mp htext c hc).1
  have hcommand : w.cloneCommand = "git" ++ " " ++ ("clone" ++ " " ++ ("-b" ++ " " ++
      (w.runner.effectiveBranch ++ " " ++
        (CloneUrl.withToken w.runner.gitUrl w.token ++ " " ++ ".")))) := by
    change "git clone -b " ++ w.runner.effectiveBranch ++ " " ++
      CloneUrl.withToken w.runner.gitUrl w.token ++ (" " ++ ".") = _
    simp only [← String.append_assoc]
    rfl
  rw [hcommand, Text.words_append (by decide) (hplain (by decide)),
    Text.words_append (by decide) (hplain (by decide)),
    Text.words_append (by decide) (hplain (by decide)),
    Text.words_append w.runner.effectiveBranch_ne_empty (hplain hbranch),
    Text.words_append hne (hplain hurl),
    Text.words_eq_singleton (by decide) (hplain (by decide))]
  rfl

/-- For a valid runner, the command survives the shell exactly if a token that is spliced into the
address would pass the check of the address. -/
theorem cloneSurvives_iff_of_validate {config : EngineConfig} {w : Workload}
    (hvalid : w.runner.validate = .ok ()) (restartPolicy : String) :
    w.CloneSurvives config restartPolicy ↔
      ∀ t ∈ w.token, CloneUrl.HasScheme w.runner.gitUrl → Runner.hasShellSyntax t = false := by
  obtain ⟨hne, hurl, hbranch⟩ := Runner.plain_of_validate hvalid
  rw [cloneSurvives_iff, ← CloneUrl.hasShellSyntax_withToken hurl]
  constructor
  · rintro ⟨hwords, hmeta⟩
    have hmem : CloneUrl.withToken w.runner.gitUrl w.token ∈ w.cloneWords := by simp [cloneWords]
    have hblank := Text.of_mem_words (hwords ▸ hmem)
    exact Runner.hasShellSyntax_eq_false_iff.mpr fun c hc => ⟨hblank c hc, hmeta _ hmem c hc⟩
  · intro hwith
    refine ⟨words_cloneCommand hbranch (CloneUrl.withToken_ne_empty hne _) hwith, ?_⟩
    have hfixed : ∀ word ∈ ["git", "clone", "-b", "."], Runner.hasShellSyntax word = false := by
      decide
    have hplain : ∀ word ∈ w.cloneWords, Runner.hasShellSyntax word = false := by
      simp only [cloneWords, List.forall_mem_cons] at hfixed ⊢
      exact ⟨hfixed.1, hfixed.2.1, hfixed.2.2.1, hbranch, hwith, hfixed.2.2.2⟩
    exact fun word hword c hc => (Runner.hasShellSyntax_eq_false_iff.mp (hplain word hword) c hc).2

end Workload

/-! ## Which tokens are stored -/

namespace ServiceCall

/-- The runner whose token a call can set. -/
def tokenOf? : ServiceCall → Option String
  | .createRunner _ r | .updateRunner _ r => some r.name
  | .updateSecret _ name _ => some name
  | _ => none

end ServiceCall

namespace World

/-- Whether a session can leave a token with a runner: a call that can set it is answered with
success, and the runner and the token are stored then. -/
def LeavesToken (config : EngineConfig) (r : Runner) (token : String) : Prop :=
  ∃ events call reply w, call.tokenOf? = some r.name ∧
    (World.after config {} events).step config (.call call) = (some (.ok reply), w) ∧
    w.catalog.records.get? r.name = some r.toRecord ∧
    w.secrets.value? r.name Runner.tokenKey = some token

/-- A valid runner that is created with a token in an empty world is stored with it. -/
theorem leavesToken_of_createRunner {r : Runner} (hvalid : r.validate = .ok ()) {token : String}
    (hfilled : token ≠ "") (hnew : token ≠ Secret.standIn) (config : EngineConfig) :
    LeavesToken config r token := by
  let given : Runner := { r with token := some token }
  have hadmit : World.admitRunner {} given .create = .ok () :=
    Outcome.bind_eq_ok.mpr ⟨(), hvalid, rfl⟩
  have hrun := run_writeRunner (storesHold_after config []) given .create
  rw [show World.after config {} [] = {} from rfl, hadmit] at hrun
  have hsecret : (World.withRunner {} given).secrets.value? r.name Runner.tokenKey = some token := by
    change (RecordStore.mergeSecret {} r.name _).value? r.name Runner.tokenKey = some token
    rw [RecordStore.value?_mergeSecret]
    simp [Secret.mergedValue, Dict.ofList, Dict.insertAll, hfilled, hnew]
  let creation : ServiceCall := .createRunner ⟨"alice", "local"⟩ given
  have hcreation : ∃ shown audit, World.run {} (creation.procedure config) =
      (.ok shown, { World.withRunner {} given with audit }) := by
    simp only [creation, ServiceCall.procedure, createRunner, run_map, run_audited, hrun]
    exact ⟨_, _, rfl⟩
  obtain ⟨shown, audit, hcreation⟩ := hcreation
  refine ⟨[], creation, shown, { World.withRunner {} given with audit }, rfl, ?_, ?_, hsecret⟩
  · simp only [World.after, List.foldl_nil, step, hcreation]
  · change ((RecordStore.written {} r.name r.toRecord).records.get? r.name) = some r.toRecord
    simp [RecordStore.written]

/-- A valid runner can be left with every token but the empty one and the stand-in. -/
theorem leavesToken_iff {r : Runner} (hvalid : r.validate = .ok ()) {token : String}
    {config : EngineConfig} :
    LeavesToken config r token ↔ token ≠ "" ∧ token ≠ Secret.standIn := by
  constructor
  · rintro ⟨events, call, reply, w, -, hstep, -, hvalue⟩
    have howned := secretsOwned_step (storesHold_after config events)
      (secretsOwned_after config events) config (.call call)
    rw [hstep] at howned
    obtain ⟨secret, hsecret, htoken⟩ := Option.bind_eq_some_iff.mp hvalue
    exact howned.values r.name secret Runner.tokenKey token hsecret htoken
  · rintro ⟨hfilled, hnew⟩
    exact leavesToken_of_createRunner hvalid hfilled hnew config

/-- Every token that is not empty and no stand-in can come to be stored for a valid runner, and the
command that clones with it survives the shell exactly if the token has no place in the address or
would pass the check of the address itself. -/
theorem clone_survives_iff {r : Runner} (hvalid : r.validate = .ok ()) (config : EngineConfig)
    (token : String) :
    (LeavesToken config r token ↔ token ≠ "" ∧ token ≠ Secret.standIn) ∧
      ∀ w : Workload, w.runner = r ∨ w.runner = Runner.ofRecord r.name r.toRecord →
        w.token = some token → ∀ restartPolicy,
          (w.CloneSurvives config restartPolicy ↔
            (CloneUrl.HasScheme r.gitUrl → Runner.hasShellSyntax token = false)) := by
  refine ⟨leavesToken_iff hvalid, fun w hrunner htoken restartPolicy => ?_⟩
  have hsame : w.runner.validate = r.validate ∧ w.runner.gitUrl = r.gitUrl := by
    rcases hrunner with hrunner | hrunner
    · rw [hrunner]
      exact ⟨rfl, rfl⟩
    · rw [hrunner, Runner.ofRecord_toRecord]
      exact ⟨Runner.validate_effectiveBranch r none, rfl⟩
  rw [Workload.cloneSurvives_iff_of_validate (hsame.1.trans hvalid), hsame.2, htoken]
  simp

/-- A runner with an address that has a place for a token. -/
def mirror : Runner where
  name := "shell"
  image := "busybox"
  gitUrl := "https://example.org/greetings.git"
  branch := ""
  token := none

/-- A workload on the runner, with a token. -/
def mirroring (token : String) : Workload where
  runner := mirror
  task :=
    { name := "hello", runner := "shell", command := "echo hello", synchronous := false
      schema := none, secret := none }
  owner := "alice"
  extraVars := none
  token := some token

theorem validate_mirror : mirror.validate = .ok () := by decide +kernel

theorem hasScheme_mirror : CloneUrl.HasScheme mirror.gitUrl :=
  ⟨"https".toList, "example.org/greetings.git".toList, by decide⟩

/-- A token that ends the command is stored for the runner like any other, and is spliced in. -/
theorem clone_survives_iff_mirror :
    LeavesToken .standard mirror "sesame" ∧ LeavesToken .standard mirror "sesame;id" ∧
      (mirroring "sesame").CloneSurvives .standard "Never" ∧
      ¬ (mirroring "sesame;id").CloneSurvives .standard "Never" := by
  obtain ⟨hplain, hplainly⟩ := clone_survives_iff validate_mirror .standard "sesame"
  obtain ⟨hending, hendingly⟩ := clone_survives_iff validate_mirror .standard "sesame;id"
  refine ⟨hplain.mpr (by decide), hending.mpr (by decide), ?_, ?_⟩
  · exact (hplainly (mirroring "sesame") (.inl rfl) rfl "Never").mpr fun _ => by decide
  · intro hsurvives
    have hclean := (hendingly (mirroring "sesame;id") (.inl rfl) rfl "Never").mp hsurvives
    exact absurd (hclean hasScheme_mirror) (by decide)

/-- Not every token that is stored for a valid runner leaves its command whole. -/
theorem not_clone_survives :
    ¬ ∀ (r : Runner) (token : String) (w : Workload), r.validate = .ok () →
      LeavesToken .standard r token → w.runner = r → w.token = some token →
      w.CloneSurvives .standard "Never" := by
  intro hall
  have hleaves : LeavesToken .standard mirror "sesame;id" :=
    (leavesToken_iff validate_mirror).mpr (by decide)
  have hsurvives := hall mirror "sesame;id" (mirroring "sesame;id") validate_mirror hleaves rfl rfl
  rw [Workload.cloneSurvives_iff_of_validate validate_mirror] at hsurvives
  exact absurd (hsurvives "sesame;id" rfl hasScheme_mirror) (by decide)

end World

end TaskEngine
