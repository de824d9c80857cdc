import TaskEngine.Console.Invocation
import TaskEngine.Proofs.Polling

/-!
# Settings of the command line

The settings that an environment gives hold a trimmed namespace, and the default one if the variable
is blank. The command line takes the same variable for an option that is not given, and takes it as it
is: what it names outweighs the settings. So without the option the command line keeps the settings
exactly if the variable, where it is set, is neither blank nor padded.
-/

namespace TaskEngine.Console

/-! ## Options that are not given -/

namespace Collected

variable {c d : Collected} {name other : String}

/-- An argument that has not been read has neither a value nor is it waiting for one. -/
theorem holds_eq_false_iff :
    c.holds name = false ↔ c.values.get? name = none ∧ ∀ p ∈ c.pending, p.name ≠ name := by
  cases hpending : c.pending <;> simp [holds, Dict.contains, hpending]

/-- A value is put under its own name. -/
theorem holds_of_put {value : String} {rule : ValueRule} (h : c.put other value rule = .ok d)
    (hother : other ≠ name) (hc : c.holds name = false) : d.holds name = false := by
  rw [put] at h
  split at h
  · cases h
  · obtain ⟨⟨⟩, -, h⟩ := Outcome.bind_eq_ok.mp h
    cases h
    rw [holds_eq_false_iff] at hc ⊢
    exact ⟨by rw [Dict.get?_insert, if_neg hother, hc.1], hc.2⟩

/-- Judging the argument read last brings no other one. -/
theorem holds_of_settle (h : c.settle = .ok d) (hc : c.holds name = false) :
    d.holds name = false := by
  have hpending := (holds_eq_false_iff.mp hc).2
  rw [settle.eq_def] at h
  split at h
  · cases h
    exact hc
  · cases h
  · rename_i last value rule heq
    refine holds_of_put h (hpending _ heq) ?_
    rw [holds_eq_false_iff] at hc ⊢
    exact ⟨hc.1, fun p hp => by cases hp⟩

/-- An option is applied under its own name. -/
theorem holds_of_apply {o : CommandOption} {attached : Option String}
    (h : o.apply attached c = .ok d) (hother : o.name ≠ name) (hc : c.holds name = false) :
    d.holds name = false := by
  rw [CommandOption.apply.eq_def] at h
  split at h
  · obtain ⟨settled, hsettle, h⟩ := Outcome.bind_eq_ok.mp h
    exact holds_of_put h hother (holds_of_settle hsettle hc)
  · obtain ⟨settled, hsettle, h⟩ := Outcome.bind_eq_ok.mp h
    cases h
    have hsettled := holds_eq_false_iff.mp (holds_of_settle hsettle hc)
    refine holds_eq_false_iff.mpr ⟨hsettled.1, fun p hp => ?_⟩
    cases hp
    exact hother
  · obtain ⟨settled, hsettle, h⟩ := Outcome.bind_eq_ok.mp h
    exact holds_of_put h hother (holds_of_settle hsettle hc)
  · obtain ⟨settled, -, h⟩ := Outcome.bind_eq_ok.mp h
    cases h
  · cases h
  · cases h

/-- A value is given to the option that waits for it. -/
theorem holds_supply (c : Collected) (value name : String) :
    (c.supply value).holds name = c.holds name := by
  cases hpending : c.pending <;> simp [supply, holds, hpending]

end Collected

namespace Invocation

/-- Whether an argument is the option that names a namespace, written out or as a letter. -/
def NamesNamespace (argument : String) : Prop :=
  argument = "--namespace" ∨ "--namespace=".toList <+: argument.toList ∨
    "-n".toList <+: argument.toList

instance : DecidablePred NamesNamespace := fun argument =>
  inferInstanceAs (Decidable (argument = "--namespace" ∨ "--namespace=".toList <+: argument.toList ∨
    "-n".toList <+: argument.toList))

/-- Whether the arguments leave the namespace open, so that only the environment can name one. -/
def LeavesNamespace (arguments : List String) : Prop :=
  ∀ i, read arguments ∅ = .ok i → i.namespaceName = none

variable {c d : Collected}

/-- An option that is written out and is not the one for the namespace leaves that open. -/
theorem holds_of_readNamed {argument : String} {named : List Char}
    (htext : argument.toList = '-' :: '-' :: named) (hother : ¬ NamesNamespace argument)
    (h : grammar.readNamed c named = .ok d) (hc : c.holds "namespace" = false) :
    d.holds "namespace" = false := by
  rw [Grammar.readNamed] at h
  split at h
  · rename_i o hfind
    refine Collected.holds_of_apply h (fun hname => hother ?_) hc
    have hfront : named.takeWhile (· ≠ Grammar.valueMark) = "namespace".toList := by
      have hfound := List.find?_some hfind
      rw [hname, beq_iff_eq] at hfound
      rw [hfound, String.toList_ofList]
    have hnamed := List.takeWhile_append_dropWhile (p := (· ≠ Grammar.valueMark)) (l := named)
    rw [hfront] at hnamed
    cases hback : named.dropWhile (· ≠ Grammar.valueMark) with
    | nil =>
      refine .inl (String.toList_inj.mp ?_)
      rw [htext, ← hnamed, hback]
      rfl
    | cons mark value =>
      have hmark : mark = Grammar.valueMark := by
        have hhead := List.head?_dropWhile_not (· ≠ Grammar.valueMark) named
        rw [hback] at hhead
        simpa using hhead
      refine .inr (.inl ⟨value, ?_⟩)
      rw [htext, ← hnamed, hback, hmark]
      rfl
  · cases h

/-- A letter in front of the command that is not the one for the namespace asks for an answer. -/
theorem readLetters_ne_ok {letter : Char} {letters : List Char} (hletter : letter ≠ 'n') :
    grammar.readLetters c (letter :: letters) ≠ .ok d := by
  intro h
  have hanswer : ∀ o ∈ grammar.options, o.letter = some letter →
      ∃ reason, o.effect = .answer reason := by
    intro o ho hfound
    simp only [grammar, List.mem_cons, List.not_mem_nil, or_false] at ho
    rcases ho with rfl | rfl | rfl | rfl | rfl
    · exact absurd (Option.some.inj hfound).symm hletter
    · cases hfound
    · cases hfound
    · exact ⟨_, rfl⟩
    · exact ⟨_, rfl⟩
  rw [Grammar.readLetters] at h
  split at h
  · cases h
  · rename_i o hfind
    obtain ⟨reason, heffect⟩ := hanswer o (List.mem_of_find?_eq_some hfind)
      (by simpa using List.find?_some hfind)
    have hrefused : ∀ next, o.apply none c ≠ .ok next := by
      intro next happly
      rw [CommandOption.apply.eq_def, heffect] at happly
      obtain ⟨-, -, happly⟩ := Outcome.bind_eq_ok.mp happly
      cases happly
    rw [heffect] at h
    obtain ⟨next, happly, -⟩ := Outcome.bind_eq_ok.mp h
    exact hrefused next happly

/-- There are no positional arguments in front of the command. -/
theorem readPositional_ne_ok {trailing : Bool} {argument : String} :
    grammar.readPositional c trailing argument ≠ .ok d := by
  intro h
  rw [Grammar.readPositional] at h
  change (if _ then _ else _) = _ at h
  split at h <;> cases h

/-- Arguments of which none is the option for the namespace leave that open, up to the command. -/
theorem holds_of_read {arguments : List String} {trailing : Bool}
    {found : Option (String × List String)}
    (hothers : ∀ argument ∈ arguments, ¬ NamesNamespace argument)
    (h : grammar.read trailing c arguments = .ok (d, found)) (hc : c.holds "namespace" = false) :
    d.holds "namespace" = false := by
  induction arguments generalizing c trailing with
  | nil =>
    cases h
    exact hc
  | cons argument rest ih =>
    obtain ⟨hother, hlater⟩ := List.forall_mem_cons.mp hothers
    rw [Grammar.read] at h
    split at h
    · obtain ⟨next, hread, -⟩ := Outcome.bind_eq_ok.mp h
      exact absurd hread readPositional_ne_ok
    · split at h
      · cases h
        exact hc
      · split at h
        · exact ih hlater h hc
        · split at h
          · rename_i named htext
            obtain ⟨next, hread, h⟩ := Outcome.bind_eq_ok.mp h
            exact ih hlater h (holds_of_readNamed htext hother hread hc)
          · rename_i letter letters _ htext
            obtain ⟨next, hread, h⟩ := Outcome.bind_eq_ok.mp h
            refine absurd hread (readLetters_ne_ok fun hletter => hother (.inr (.inr ?_)))
            exact ⟨letters, by rw [htext, hletter]; rfl⟩
          · split at h
            · exact ih hlater h ((Collected.holds_supply c argument "namespace").trans hc)
            · obtain ⟨next, hread, -⟩ := Outcome.bind_eq_ok.mp h
              exact absurd hread readPositional_ne_ok

/-! ## What the environment fills in -/

/-- What judged arguments and a command ask for in an environment. -/
def complete (env : Environment) (given : Given) (command : Command) : Invocation :=
  let given := substitutes.foldl (fillIn env) given
  { namespaceName := given.get? "namespace"
    user := (given.get? "user").getD standardUser
    format := ((given.get? "format").bind OutputFormat.ofName?).getD .text
    command }

/-- The environment fills in an option that is not given, and no other one. -/
theorem get?_fillIn (env : Environment) (given : Given) (option : String × String) (key : String) :
    (fillIn env given option).get? key =
      if option.1 = key then (given.get? key).or (env.get? option.2) else given.get? key := by
  rw [fillIn]
  split
  · rename_i value hgiven henv
    rw [Dict.get?_insert]
    split
    · rename_i hkey
      rw [← hkey, hgiven, henv]
      rfl
    · rfl
  · rename_i hkept
    split
    · rename_i hkey
      subst hkey
      cases hgiven : given.get? option.1 with
      | some value => rfl
      | none =>
        cases henv : env.get? option.2 with
        | none => rfl
        | some value => exact absurd henv (hkept value hgiven)
    · rfl

/-- The namespace is the one that is given, or else the one that the variable is set to. -/
theorem namespaceName_complete (env : Environment) (given : Given) (command : Command) :
    (complete env given command).namespaceName =
      (given.get? "namespace").or (env.get? EngineConfig.namespaceVariable) := by
  simp [complete, substitutes, get?_fillIn]

/-- What is accepted in one environment is accepted in every one, and the environment only completes
it. -/
theorem exists_complete {arguments : List String} {env : Environment} {i : Invocation}
    (h : read arguments env = .ok i) :
    ∃ (collected settled : Collected) (found : Option (String × List String)) (command : Command),
      grammar.read false {} arguments = .ok (collected, found) ∧ collected.settle = .ok settled ∧
        ∀ other, read arguments other = .ok (complete other settled.values command) := by
  obtain ⟨⟨collected, found⟩, hread, h⟩ := Outcome.bind_eq_ok.mp h
  cases found with
  | none =>
    obtain ⟨command?, hnone, h⟩ := Outcome.bind_eq_ok.mp h
    cases hnone
    obtain ⟨settled, -, h⟩ := Outcome.bind_eq_ok.mp h
    cases h
  | some found =>
    cases hform : CommandForm.all.find? (·.name == found.1) with
    | none =>
      simp only [hform] at h
      obtain ⟨command?, hrefused, -⟩ := Outcome.bind_eq_ok.mp h
      cases hrefused
    | some form =>
      simp only [hform] at h
      obtain ⟨command?, hmapped, h⟩ := Outcome.bind_eq_ok.mp h
      obtain ⟨command, hcommand⟩ : ∃ command, form.read found.2 = .ok command := by
        cases hcommand : form.read found.2 with
        | error e =>
          rw [hcommand] at hmapped
          cases hmapped
        | ok command => exact ⟨command, rfl⟩
      obtain ⟨settled, hsettle, -⟩ := Outcome.bind_eq_ok.mp h
      refine ⟨collected, settled, some found, command, hread, hsettle, fun other => ?_⟩
      refine Outcome.bind_eq_ok.mpr ⟨_, hread, ?_⟩
      simp only [hform, hcommand, hsettle]
      rfl

/-- Arguments without the option for the namespace leave it open. -/
theorem leavesNamespace_of_others {arguments : List String}
    (hothers : ∀ argument ∈ arguments, ¬ NamesNamespace argument) : LeavesNamespace arguments := by
  intro i h
  obtain ⟨collected, settled, found, command, hread, hsettle, hcomplete⟩ := exists_complete h
  have hcollected := holds_of_read hothers hread rfl
  have hsettled := Collected.holds_eq_false_iff.mp (Collected.holds_of_settle hsettle hcollected)
  rw [← Except.ok.inj ((hcomplete ∅).symm.trans h), namespaceName_complete, hsettled.1]
  rfl

/-- A namespace that is left open is what the variable of the environment is set to. -/
theorem namespaceName_of_leavesNamespace {arguments : List String} {env : Environment}
    {i : Invocation} (hopen : LeavesNamespace arguments) (h : read arguments env = .ok i) :
    i.namespaceName = env.get? EngineConfig.namespaceVariable := by
  obtain ⟨collected, settled, found, command, -, -, hcomplete⟩ := exists_complete h
  have hnone := hopen _ (hcomplete ∅)
  rw [namespaceName_complete, Option.or_eq_none_iff] at hnone
  rw [← Except.ok.inj ((hcomplete env).symm.trans h), namespaceName_complete, hnone.1,
    Option.none_or]

end Invocation

/-! ## Settings of an invocation -/

/-- A namespace that is left open is that of the settings. -/
theorem settings_none {env : Environment} {config : EngineConfig}
    (h : EngineConfig.ofEnvironment env = .ok config) : settings none env = .ok config := by
  refine Outcome.bind_eq_ok.mpr ⟨config, by rw [h]; rfl, Outcome.bind_eq_ok.mpr ⟨(), ?_, rfl⟩⟩
  change config.validate.mapError _ = _
  rw [(EngineConfig.ofEnvironment_spec h).1]
  rfl

/-- A namespace that is given takes the place of that of the settings, unless it is blank. -/
theorem settings_some {env : Environment} {config : EngineConfig}
    (h : EngineConfig.ofEnvironment env = .ok config) (name : String) :
    settings (some name) env =
      if Text.isBlank name then
        .error (.namespaceName (.invalidInput "namespace must not be empty"))
      else .ok { config with namespaceName := name } := by
  have hvalid := EngineConfig.isValid_syncPoll (EngineConfig.ofEnvironment_spec h).1
  have hchecked : { config with namespaceName := name : EngineConfig }.validate =
      if Text.isBlank name then .error (.invalidInput "namespace must not be empty")
      else .ok () := by
    rw [EngineConfig.validate]
    split
    · rfl
    · rw [if_neg (Nat.ne_of_gt hvalid.1), if_neg (Nat.not_lt.mpr hvalid.2)]
  have hsettings : settings (some name) env =
      { config with namespaceName := name : EngineConfig }.validate.mapError .namespaceName >>=
        fun _ => .ok { config with namespaceName := name } := by
    rw [settings, h]
    rfl
  rw [hsettings, hchecked]
  split <;> rfl

/-- A command line that leaves the namespace open is answered with the settings of the environment
exactly if the variable for the namespace is unset, or set to a text that is neither blank nor padded.
Only the option for the namespace keeps a command line from leaving it open. -/
theorem settings_kept_iff {env : Environment} {config : EngineConfig}
    (h : EngineConfig.ofEnvironment env = .ok config) :
    (∀ arguments : List String, (∀ argument ∈ arguments, ¬ Invocation.NamesNamespace argument) →
      Invocation.LeavesNamespace arguments) ∧
    ∀ (arguments : List String) (i : Invocation), Invocation.LeavesNamespace arguments →
      Invocation.read arguments env = .ok i →
      (settings i.namespaceName env = .ok config ↔
        ∀ name ∈ env.get? EngineConfig.namespaceVariable,
          Text.isBlank name = false ∧ Text.trim name = name) := by
  refine ⟨fun _ => Invocation.leavesNamespace_of_others, fun arguments i hopen hread => ?_⟩
  rw [Invocation.namespaceName_of_leavesNamespace hopen hread]
  cases hname : env.get? EngineConfig.namespaceVariable with
  | none => simp [settings_none h]
  | some name =>
    rw [settings_some h]
    have hconfig := (EngineConfig.ofEnvironment_spec h).2
    rw [Environment.setting?, hname] at hconfig
    cases hblank : Text.isBlank name with
    | true => simp [hblank]
    | false =>
      have htrimmed : config.namespaceName = Text.trim name := by simpa [hblank] using hconfig
      have hsame : ({ config with namespaceName := name } : EngineConfig) = config ↔
          Text.trim name = name := by
        rw [← htrimmed]
        constructor
        · intro heq
          rw [← heq]
        · rintro rfl
          rfl
      simpa [hblank] using hsame

/-- An environment whose namespace is a text, with one padded variable beside it. -/
def environmentOf (name : String) : Environment :=
  Dict.ofList [(EngineConfig.namespaceVariable, name), (EngineConfig.ttlVariable, " 60 ")]

/-- What would be the option for the namespace is the name of a task behind the double dash. -/
theorem settings_kept_iff_trailing :
    Invocation.LeavesNamespace ["--user=alice", "run", "--", "-n"] ∧
      (∃ i, Invocation.read ["--user=alice", "run", "--", "-n"] (environmentOf "team") = .ok i ∧
        settings i.namespaceName (environmentOf "team") =
          .ok { EngineConfig.standard with namespaceName := "team", jobsTtlSeconds := 60 }) ∧
      ∃ i, Invocation.read ["jobs"] (environmentOf " team") = .ok i ∧
        settings i.namespaceName (environmentOf " team") ≠
          .ok { EngineConfig.standard with namespaceName := "team", jobsTtlSeconds := 60 } := by
  have hteam : EngineConfig.ofEnvironment (environmentOf "team") =
      .ok { EngineConfig.standard with namespaceName := "team", jobsTtlSeconds := 60 } := by decide
  have hpadded : EngineConfig.ofEnvironment (environmentOf " team") =
      .ok { EngineConfig.standard with namespaceName := "team", jobsTtlSeconds := 60 } := by decide
  have hopen : Invocation.LeavesNamespace ["--user=alice", "run", "--", "-n"] := by
    intro i h
    cases h
    rfl
  have hjobs : Invocation.LeavesNamespace ["jobs"] := (settings_kept_iff hteam).1 _ (by decide)
  refine ⟨hopen, ⟨_, rfl, ?_⟩, ⟨_, rfl, ?_⟩⟩
  · exact ((settings_kept_iff hteam).2 _ _ hopen rfl).mpr (by decide)
  · rw [Ne, (settings_kept_iff hpadded).2 _ _ hjobs rfl]
    decide

/-- A blank variable keeps the default namespace in the settings, and leaves the command line without
any. -/
theorem not_settings_kept :
    ¬ ∀ (env : Environment) (config : EngineConfig), EngineConfig.ofEnvironment env = .ok config →
      ∀ (arguments : List String) (i : Invocation), Invocation.LeavesNamespace arguments →
        Invocation.read arguments env = .ok i → settings i.namespaceName env = .ok config := by
  intro hall
  have hsettings := hall (environmentOf "  ")
    { EngineConfig.standard with jobsTtlSeconds := 60 } (by decide) ["jobs"] _
    (Invocation.leavesNamespace_of_others (by decide)) rfl
  exact absurd hsettings (by decide)

end TaskEngine.Console
