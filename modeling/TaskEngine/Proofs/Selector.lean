import TaskEngine.Memory.Simulator
import TaskEngine.Proofs.Dict
import TaskEngine.Proofs.Labels
import TaskEngine.Proofs.Marks
import TaskEngine.Workload.Label

/-!
# Selectors mean equality of labels

A selector is rendered from its terms and read again from its text. As long as keys and texts hold
no comma and no blank, and keys no equals sign, the terms that are read are those that were
rendered. Resource names are such texts, and so are names made of letters and digits.
-/

namespace TaskEngine

/-- A text that can stand in a selector: no comma ends its term, and no blank is trimmed off. -/
def Text.IsPlain (text : String) : Prop :=
  ∀ c ∈ text.toList, c ≠ ',' ∧ Text.isBlankChar c = false

instance (text : String) : Decidable (Text.IsPlain text) :=
  List.decidableBAll (fun c => c ≠ ',' ∧ Text.isBlankChar c = false) text.toList

namespace Text

/-! ## Splitting -/

theorem splitAll_of_not_mem {separator : Char} {cs : List Char} (h : separator ∉ cs) :
    splitAll separator cs = [cs] := by
  induction cs with
  | nil => rfl
  | cons c cs ih =>
    simp only [List.mem_cons, not_or] at h
    rw [splitAll, if_neg (Ne.symm h.1), ih h.2]

theorem splitAll_append {separator : Char} {cs : List Char} (h : separator ∉ cs)
    (rest : List Char) :
    splitAll separator (cs ++ separator :: rest) = cs :: splitAll separator rest := by
  induction cs with
  | nil => simp [splitAll]
  | cons c cs ih =>
    simp only [List.mem_cons, not_or] at h
    rw [List.cons_append, splitAll, if_neg (Ne.symm h.1), ih h.2]

/-- Parts without commas that are joined by commas are split again. -/
theorem splitAll_joinWith {parts : List String} (hne : parts ≠ [])
    (h : ∀ part ∈ parts, ',' ∉ part.toList) :
    splitAll ',' (joinWith "," parts).toList = parts.map String.toList := by
  induction parts with
  | nil => exact absurd rfl hne
  | cons part rest ih =>
    have hpart : ',' ∉ part.toList := h part List.mem_cons_self
    cases rest with
    | nil => exact splitAll_of_not_mem hpart
    | cons next rest =>
      have hrest : ∀ part ∈ next :: rest, ',' ∉ part.toList :=
        fun part hmem => h part (List.mem_cons_of_mem _ hmem)
      have htext : (joinWith "," (part :: next :: rest)).toList =
          part.toList ++ ',' :: (joinWith "," (next :: rest)).toList := by
        simp [joinWith]
      rw [htext, splitAll_append hpart, ih (by simp) hrest]
      rfl

/-- Every character of a text is the separator or stands in a part. -/
theorem mem_splitAll {separator c : Char} {cs : List Char} (hc : c ∈ cs) :
    c = separator ∨ ∃ part ∈ splitAll separator cs, c ∈ part := by
  induction cs with
  | nil => simp at hc
  | cons d cs ih =>
    rw [splitAll]
    split
    · rename_i hd
      rcases List.mem_cons.mp hc with rfl | hc
      · exact .inl hd
      · exact (ih hc).imp_right fun ⟨part, hmem, hpart⟩ =>
          ⟨part, List.mem_cons_of_mem _ hmem, hpart⟩
    · cases hsplit : splitAll separator cs with
      | nil =>
        rcases List.mem_cons.mp hc with rfl | hc
        · exact .inr ⟨[c], by simp⟩
        · exact .inl (by simpa [hsplit] using ih hc)
      | cons part parts =>
        rcases List.mem_cons.mp hc with rfl | hc
        · exact .inr ⟨c :: part, by simp⟩
        · rcases ih hc with h | ⟨other, hmem, hother⟩
          · exact .inl h
          · rw [hsplit] at hmem
            rcases List.mem_cons.mp hmem with rfl | hmem
            · exact .inr ⟨d :: other, by simp [hother]⟩
            · exact .inr ⟨other, List.mem_cons_of_mem _ hmem, hother⟩

/-- A text without blanks is not trimmed. -/
theorem trimChars_eq_self {cs : List Char} (h : ∀ c ∈ cs, isBlankChar c = false) :
    trimChars cs = cs := by
  have hfront : ∀ ds : List Char, (∀ c ∈ ds, isBlankChar c = false) → trimFront ds = ds := by
    intro ds hds
    cases ds with
    | nil => rfl
    | cons d ds => simp [trimFront, hds d List.mem_cons_self]
  have hback : ∀ c ∈ cs.reverse, isBlankChar c = false :=
    fun c hc => h c (List.mem_reverse.mp hc)
  rw [trimChars, hfront cs h, trimBack, hfront _ hback, List.reverse_reverse]

end Text

/-! ## Plain texts -/

theorem Text.IsPlain.append {a b : String} (ha : Text.IsPlain a) (hb : Text.IsPlain b) :
    Text.IsPlain (a ++ b) := by
  intro c hc
  rw [String.toList_append] at hc
  rcases List.mem_append.mp hc with hc | hc
  · exact ha c hc
  · exact hb c hc

/-- Lower-case letters and digits are plain. -/
theorem Name.plain_of_isAlnum {c : Char} (h : Name.isAlnum c = true) :
    c ≠ ',' ∧ Text.isBlankChar c = false := by
  have hrange := Name.isAlnum_iff.mp h
  refine ⟨?_, ?_⟩
  · rintro rfl
    revert hrange
    decide
  · simp only [Text.isBlankChar, Bool.or_eq_false_iff, Bool.and_eq_false_iff,
      decide_eq_false_iff_not, beq_eq_false_iff_ne]
    omega

/-- A resource name is made of letters, digits, hyphens and dots. -/
theorem Name.of_mem_of_isLegal {name : String} (h : Name.isLegal name = true) {c : Char}
    (hc : c ∈ name.toList) : Name.isAlnum c = true ∨ c = '-' ∨ c = '.' := by
  rw [Name.isLegal, Bool.and_eq_true] at h
  rcases @Text.mem_splitAll '.' _ _ hc with rfl | ⟨part, hmem, hpart⟩
  · exact .inr (.inr rfl)
  · have hlabel := List.all_eq_true.mp h.2 part hmem
    simp only [Name.isLabel_eq, Bool.and_eq_true] at hlabel
    have hchar := List.all_eq_true.mp hlabel.1.1 c hpart
    rw [Name.isLabelChar, Bool.or_eq_true, beq_iff_eq] at hchar
    exact hchar.imp_right .inl

/-- Resource names are plain. -/
theorem Name.isPlain_of_isLegal {name : String} (h : Name.isLegal name = true) :
    Text.IsPlain name := by
  intro c hc
  rcases Name.of_mem_of_isLegal h hc with halnum | rfl | rfl
  · exact Name.plain_of_isAlnum halnum
  · decide
  · decide

/-- What completes names is plain. -/
theorem NameSuffix.isPlain_text (s : NameSuffix) : Text.IsPlain s.text := by
  intro c hc
  rw [NameSuffix.text, String.toList_ofList] at hc
  exact Name.plain_of_isAlnum (List.all_eq_true.mp s.legal c hc)

namespace Cluster

/-! ## Terms -/

/-- A term that can be read back: key and text are plain, and no equals sign is in the key. -/
def Term.IsPlain : Term → Prop
  | .present _ => False
  | .equals key value => Text.IsPlain key ∧ '=' ∉ key.toList ∧ Text.IsPlain value

/-- The first equals sign ends the key, whatever follows it. -/
theorem Term.read_equals {key : String} (hkey : '=' ∉ key.toList) (value : String) :
    Term.read (Term.equals key value).render = .equals key value := by
  have htext : (key ++ "=" ++ value).toList = key.toList ++ '=' :: value.toList := by simp
  rw [render, read, Text.splitOnce?, htext]
  have hcut : Text.cutFirst? "=".toList (key.toList ++ '=' :: value.toList) =
      some (key.toList, value.toList) := Text.cutFirst?_append hkey value.toList
  rw [hcut]
  simp

theorem Term.read_render {term : Term} (h : term.IsPlain) : Term.read term.render = term := by
  cases term with
  | present key => exact h.elim
  | equals key value => exact Term.read_equals h.2.1 value

theorem Term.isPlain_render {term : Term} (h : term.IsPlain) : Text.IsPlain term.render := by
  cases term with
  | present key => exact h.elim
  | equals key value =>
    refine (Text.IsPlain.append h.1 ?_).append h.2.2
    intro c hc
    rw [show c = '=' by simpa using hc]
    decide

theorem Term.render_ne_empty {term : Term} (h : term.IsPlain) : term.render.toList ≠ [] := by
  cases term with
  | present key => exact h.elim
  | equals key value => simp [render]

/-- The terms of a selector are read back from its text. -/
theorem Selector.read_render {terms : List Term} (hne : terms ≠ [])
    (h : ∀ term ∈ terms, term.IsPlain) : Selector.read (Selector.render terms) = terms := by
  have hplain : ∀ text ∈ terms.map Term.render, Text.IsPlain text := by
    intro text hmem
    obtain ⟨term, hterm, rfl⟩ := List.mem_map.mp hmem
    exact Term.isPlain_render (h term hterm)
  have hsplit : Text.splitAll ',' (Selector.render terms).toList =
      (terms.map Term.render).map String.toList :=
    Text.splitAll_joinWith (by simpa using hne) fun text hmem hcomma =>
      (hplain text hmem ',' hcomma).1 rfl
  have htrim : (terms.map fun term => Text.trimChars term.render.toList) =
      terms.map fun term => term.render.toList := by
    refine List.map_congr_left fun term hterm => Text.trimChars_eq_self fun c hc => ?_
    exact (Term.isPlain_render (h term hterm) c hc).2
  have hfilter : (terms.map fun term => term.render.toList).filter (fun term => !term.isEmpty) =
      terms.map fun term => term.render.toList := by
    refine List.filter_eq_self.mpr fun text hmem => ?_
    obtain ⟨term, hterm, rfl⟩ := List.mem_map.mp hmem
    simpa using Term.render_ne_empty (h term hterm)
  have hread : (terms.map fun term => Term.read (String.ofList term.render.toList)) = terms := by
    refine (List.map_congr_left fun term hterm => ?_).trans (List.map_id terms)
    rw [String.ofList_toList, Term.read_render (h term hterm), id]
  rw [Selector.read, hsplit, List.map_map, List.map_map]
  change (((terms.map fun term => Text.trimChars term.render.toList).filter _).map _) = terms
  rw [htrim, hfilter, List.map_map]
  exact hread

theorem Term.holds_equals {labels : Option Labels} {key value : String} :
    Term.holds labels (.equals key value) = true ↔ labels.bind (·.get? key) = some value := by
  rw [Term.holds, beq_iff_eq]

end Cluster

/-! ## The selectors of the engine -/

/-- The selector of a task accepts exactly what carries its name. -/
theorem accepts_taskSelector {name : String} (h : Text.IsPlain name)
    (labels : Option Cluster.Labels) :
    Cluster.Selector.accepts (taskSelector name) labels = true ↔
      labels.bind (·.get? Label.task) = some name := by
  have hplain : ∀ term ∈ [Cluster.Term.equals Label.task name], term.IsPlain := by
    simpa [Cluster.Term.IsPlain, h] using by decide
  rw [Cluster.Selector.accepts, taskSelector, Cluster.Selector.read_render (by simp) hplain,
    List.all_cons, List.all_nil, Bool.and_true, Cluster.Term.holds_equals]

/-- The selector of all tasks accepts whatever carries the name of one. -/
theorem accepts_presence (labels : Option Cluster.Labels) :
    Cluster.Selector.accepts (Cluster.Selector.render [.present Label.task]) labels =
      (labels.bind (·.get? Label.task)).isSome := by
  have hread : Cluster.Selector.read (Cluster.Selector.render [.present Label.task]) =
      [.present Label.task] := by
    decide
  rw [Cluster.Selector.accepts, hread, List.all_cons, List.all_nil, Bool.and_true,
    Cluster.Term.holds]

/-- Whether every identifier of a scope can stand in a selector. -/
def AuthorizedIds.IsPlain : AuthorizedIds → Prop
  | .all => True
  | .only ids => ∀ id ∈ ids, Text.IsPlain id

/-- The scope of resource names and wildcards can stand in selectors. -/
theorem AuthorizedIds.isPlain_ofList {ids : List String}
    (h : ∀ id ∈ ids, Name.isLegal id = true ∨ id = wildcard) : (ofList ids).IsPlain := by
  rw [ofList]
  split
  · trivial
  · rename_i hwildcard
    intro id hid
    rcases h id hid with hlegal | rfl
    · exact Name.isPlain_of_isLegal hlegal
    · exact absurd hid hwildcard

/-- What carries the name of a task is accepted by a selector of a scope exactly if the scope
permits that task. -/
theorem exists_accepts_taskSelectors {scope : AuthorizedIds} (hplain : scope.IsPlain)
    {labels : Option Cluster.Labels} {task : String}
    (hlabel : labels.bind (·.get? Label.task) = some task) :
    (∃ selector ∈ scope.taskSelectors, Cluster.Selector.accepts selector labels = true) ↔
      scope.permits task = true := by
  cases scope with
  | all =>
    have haccepts := accepts_presence labels
    rw [hlabel] at haccepts
    exact iff_of_true ⟨_, List.mem_singleton.mpr rfl, haccepts⟩ rfl
  | only ids =>
    simp only [AuthorizedIds.taskSelectors, AuthorizedIds.permits, List.mem_map,
      exists_exists_and_eq_and, decide_eq_true_eq]
    constructor
    · rintro ⟨id, hid, haccepts⟩
      have htask := (accepts_taskSelector (hplain id hid) labels).mp haccepts
      rw [hlabel, Option.some_inj] at htask
      rwa [htask]
    · intro hid
      exact ⟨task, hid, (accepts_taskSelector (hplain task hid) labels).mpr hlabel⟩

/-- The selector of the pods of a job accepts exactly those with the name of the job. -/
theorem accepts_podSelector {id : String} (h : Text.IsPlain id) (labels : Option Cluster.Labels) :
    Cluster.Selector.accepts (podSelector id none) labels = true ↔
      labels.bind (·.get? Label.job) = some id := by
  have hplain : ∀ term ∈ [Cluster.Term.equals Label.job id], term.IsPlain := by
    simpa [Cluster.Term.IsPlain, h] using by decide
  rw [Cluster.Selector.accepts, podSelector, Cluster.Selector.read_render (by simp) hplain,
    List.all_cons, List.all_nil, Bool.and_true, Cluster.Term.holds_equals]

end TaskEngine
