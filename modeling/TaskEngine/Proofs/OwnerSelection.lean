import Mathlib.Data.List.DropRight
import TaskEngine.Proofs.Selector
import TaskEngine.Proofs.Simulator

/-!
# Pods selected by an owner

The name of an owner is put into the text of a selector as it is, and whoever reads that text takes
a comma in the name for the end of a term and drops blanks at the end of one. Such a name is read
back as another one, and the pods of that other owner are selected. All other names select the pods
that carry them.
-/

namespace TaskEngine

namespace Text

/-! ## Trimming a term -/

/-- Blanks at the end of a text are all behind its last character that is none. -/
theorem trimBack_append_cons {c : Char} (hc : isBlankChar c = false) (front back : List Char) :
    trimBack (front ++ c :: back) = front ++ c :: trimBack back := by
  have hreverse : (front ++ c :: back).reverse = back.reverse ++ c :: front.reverse := by simp
  rw [trimBack, trimBack, hreverse, trimFront, trimFront, List.dropWhile_append]
  split
  · rename_i hall
    rw [List.isEmpty_iff.mp hall]
    simp [hc]
  · simp

/-- A text keeps its end exactly if no blank stands there. -/
theorem trimBack_eq_self_iff {cs : List Char} :
    trimBack cs = cs ↔ ∀ c ∈ cs.getLast?, isBlankChar c = false := by
  have hkept : trimBack cs = cs ↔ ∀ hne : cs ≠ [], ¬ isBlankChar (cs.getLast hne) :=
    List.rdropWhile_eq_self_iff
  rw [hkept]
  cases cs with
  | nil => simp
  | cons c cs => simp [List.getLast?_eq_some_getLast]

end Text

namespace Cluster

/-! ## Reading part by part -/

section Parts

variable {part : String} (hcomma : ',' ∉ part.toList) (hfilled : Text.trim part ≠ "")

include hcomma hfilled

/-- A text without commas is one term. -/
theorem Selector.read_part : Selector.read part = [Term.read (Text.trim part)] := by
  have hkept : Text.trimChars part.toList ≠ [] := by simpa [Text.trim] using hfilled
  rw [Selector.read, Text.splitAll_of_not_mem hcomma]
  simp [hkept, Text.trim]

/-- The first comma ends the first term. -/
theorem Selector.read_part_append (rest : String) :
    Selector.read (part ++ "," ++ rest) = Term.read (Text.trim part) :: Selector.read rest := by
  have hkept : Text.trimChars part.toList ≠ [] := by simpa [Text.trim] using hfilled
  have htext : (part ++ "," ++ rest).toList = part.toList ++ ',' :: rest.toList := by simp
  rw [Selector.read, Selector.read, htext, Text.splitAll_append hcomma]
  simp [hkept, Text.trim]

end Parts

/-- A term is trimmed at the end of its value only. -/
theorem Term.trim_render {key : String} (hkey : Text.IsPlain key) (value : String) :
    Text.trim (Term.equals key value).render = (Term.equals key (Text.trimEnd value)).render := by
  have htext : (key ++ "=" ++ value).toList = key.toList ++ '=' :: value.toList := by simp
  have hfront : Text.trimFront (key.toList ++ '=' :: value.toList) =
      key.toList ++ '=' :: value.toList := by
    cases hchars : key.toList with
    | nil => rfl
    | cons c rest =>
      have hc : Text.isBlankChar c = false := (hkey c (by simp [hchars])).2
      simp [Text.trimFront, hc]
  rw [Text.trim, render, htext, Text.trimChars, hfront, Text.trimBack_append_cons (by decide)]
  apply String.toList_inj.mp
  simp [render, Text.trimEnd]

end Cluster

/-! ## The owner that is read -/

/-- The owner whose name a selector is read with: the given name up to its first comma, without
blanks at the end. -/
def ownerRead (owner : String) : String :=
  Text.trimEnd (String.ofList (owner.toList.takeWhile (· ≠ ',')))

/-- A name that is the same in a selector as outside of it. -/
def StandsForItself (owner : String) : Prop :=
  ',' ∉ owner.toList ∧ ∀ c ∈ owner.toList.getLast?, Text.isBlankChar c = false

instance (owner : String) : Decidable (StandsForItself owner) :=
  -- Only the last character is checked; there are also instances that go through all there are.
  @instDecidableAnd _ _ inferInstance (Option.decidableForallMem owner.toList.getLast?)

theorem ownerRead_eq_of_not_mem {owner : String} (hcomma : ',' ∉ owner.toList) :
    ownerRead owner = Text.trimEnd owner := by
  have hall : ∀ c ∈ owner.toList, decide (c ≠ ',') = true := by
    intro c hc
    exact decide_eq_true fun he => hcomma (he ▸ hc)
  rw [ownerRead, List.takeWhile_eq_self_iff.mpr hall, String.ofList_toList]

/-- No comma is left in a name that is read. -/
theorem not_mem_ownerRead (owner : String) : ',' ∉ (ownerRead owner).toList := by
  intro hmem
  rw [ownerRead, Text.trimEnd, String.toList_ofList, String.toList_ofList, Text.trimBack,
    List.mem_reverse] at hmem
  have hkept := List.mem_reverse.mp ((List.dropWhile_sublist _).subset hmem)
  exact absurd (List.mem_takeWhile_imp hkept) (by decide)

theorem ownerRead_eq_iff {owner : String} : ownerRead owner = owner ↔ StandsForItself owner := by
  by_cases hcomma : ',' ∈ owner.toList
  · constructor
    · intro heq
      exact absurd hcomma (heq ▸ not_mem_ownerRead owner)
    · intro h
      exact absurd hcomma h.1
  · rw [ownerRead_eq_of_not_mem hcomma, StandsForItself, and_iff_right hcomma,
      ← Text.trimBack_eq_self_iff, ← String.toList_inj, Text.trimEnd, String.toList_ofList]

theorem Text.IsPlain.standsForItself {owner : String} (h : Text.IsPlain owner) :
    StandsForItself owner :=
  ⟨fun hmem => (h ',' hmem).1 rfl, fun c hc => (h c (List.mem_of_getLast? hc)).2⟩

/-! ## The selector of an owner's pods -/

/-- A name without commas is spliced in as the value of one term. -/
theorem read_ownerTerm {owner : String} (hcomma : ',' ∉ owner.toList) :
    ',' ∉ (Cluster.Term.equals Label.owner owner).render.toList ∧
      Text.trim (Cluster.Term.equals Label.owner owner).render ≠ "" ∧
      Cluster.Term.read (Text.trim (Cluster.Term.equals Label.owner owner).render) =
        .equals Label.owner (Text.trimEnd owner) := by
  have hkey : Text.IsPlain Label.owner := by decide
  refine ⟨?_, ?_, ?_⟩
  · simpa [Cluster.Term.render, Label.owner] using hcomma
  · rw [Cluster.Term.trim_render hkey]
    simp [Cluster.Term.render, Label.owner]
  · rw [Cluster.Term.trim_render hkey, Cluster.Term.read_equals (by decide)]

/-- A selector is read with the owner that is read from the name. More terms come only from behind a
comma in the name. -/
theorem exists_read_ownerTerm (owner : String) :
    ∃ more, Cluster.Selector.read (Cluster.Term.equals Label.owner owner).render =
        .equals Label.owner (ownerRead owner) :: more ∧ (',' ∉ owner.toList → more = []) := by
  by_cases hcomma : ',' ∈ owner.toList
  · obtain ⟨before, after, hparts, hbefore⟩ := List.eq_append_cons_of_mem hcomma
    have howner : owner = String.ofList before ++ "," ++ String.ofList after := by
      apply String.toList_inj.mp
      simp [hparts]
    have hread : ownerRead owner = Text.trimEnd (String.ofList before) := by
      have hall : ∀ c ∈ before, decide (c ≠ ',') = true := by
        intro c hc
        exact decide_eq_true fun he => hbefore (he ▸ hc)
      rw [ownerRead, hparts, List.takeWhile_append_of_pos hall]
      simp
    have hterm : (Cluster.Term.equals Label.owner owner).render =
        (Cluster.Term.equals Label.owner (String.ofList before)).render ++ "," ++
          String.ofList after := by
      rw [howner]
      simp [Cluster.Term.render, String.append_assoc]
    obtain ⟨hone, hfilled, hfirst⟩ :=
      @read_ownerTerm (String.ofList before) (by simpa using hbefore)
    refine ⟨Cluster.Selector.read (String.ofList after), ?_, fun h => absurd hcomma h⟩
    rw [hterm, Cluster.Selector.read_part_append hone hfilled, hfirst, hread]
  · obtain ⟨hone, hfilled, hfirst⟩ := read_ownerTerm hcomma
    refine ⟨[], ?_, fun _ => rfl⟩
    rw [Cluster.Selector.read_part hone hfilled, hfirst, ownerRead_eq_of_not_mem hcomma]

/-- What the selector of the pods of a job of an owner demands first. -/
theorem exists_read_podSelector {id owner : String} (hid : Text.IsPlain id) (hne : owner ≠ "") :
    ∃ more, Cluster.Selector.read (podSelector id (some owner)) =
        .equals Label.job id :: .equals Label.owner (ownerRead owner) :: more ∧
      (',' ∉ owner.toList → more = []) := by
  have hfilled : owner.isEmpty = false := by simpa using hne
  have htext : podSelector id (some owner) =
      (Cluster.Term.equals Label.job id).render ++ "," ++
        (Cluster.Term.equals Label.owner owner).render := by
    simp [podSelector, hfilled, Cluster.Selector.render, Text.joinWith]
  have hjob : (Cluster.Term.equals Label.job id).IsPlain := ⟨by decide, by decide, hid⟩
  have hplain := Cluster.Term.isPlain_render hjob
  have htrim : Text.trim (Cluster.Term.equals Label.job id).render =
      (Cluster.Term.equals Label.job id).render := by
    rw [Text.trim, Text.trimChars_eq_self fun c hc => (hplain c hc).2, String.ofList_toList]
  have hterm : Text.trim (Cluster.Term.equals Label.job id).render ≠ "" := by
    rw [htrim]
    simpa using Cluster.Term.render_ne_empty hjob
  obtain ⟨more, hmore, hone⟩ := exists_read_ownerTerm owner
  refine ⟨more, ?_, hone⟩
  rw [htext, Cluster.Selector.read_part_append (fun hmem => (hplain ',' hmem).1 rfl) hterm, htrim,
    Cluster.Term.read_render hjob, hmore]

/-! ## The pods that are selected -/

/-- The pods of a job that carry the name of an owner. -/
def Simulator.podsLabelled (s : Simulator) (id owner : String) : List Cluster.Pod :=
  s.pods.values.filter fun pod =>
    decide (pod.metadata.labels.bind (·.get? Label.job) = some id ∧
      pod.metadata.labels.bind (·.get? Label.owner) = some owner)

section Owner

variable {id owner : String} (hid : Text.IsPlain id) (hne : owner ≠ "")

include hid hne

/-- No pod is selected whose owner is not the one that is read. -/
theorem owner_of_accepts_podSelector {labels : Option Cluster.Labels}
    (h : Cluster.Selector.accepts (podSelector id (some owner)) labels = true) :
    labels.bind (·.get? Label.job) = some id ∧
      labels.bind (·.get? Label.owner) = some (ownerRead owner) := by
  obtain ⟨more, hread, -⟩ := exists_read_podSelector hid hne
  rw [Cluster.Selector.accepts, hread, List.all_cons, List.all_cons, Bool.and_eq_true,
    Bool.and_eq_true, Cluster.Term.holds_equals, Cluster.Term.holds_equals] at h
  exact ⟨h.1, h.2.1⟩

/-- A name that stands for itself selects the pods that carry it. -/
theorem accepts_podSelector_owner (howner : StandsForItself owner)
    (labels : Option Cluster.Labels) :
    Cluster.Selector.accepts (podSelector id (some owner)) labels = true ↔
      labels.bind (·.get? Label.job) = some id ∧
        labels.bind (·.get? Label.owner) = some owner := by
  obtain ⟨more, hread, hmore⟩ := exists_read_podSelector hid hne
  rw [Cluster.Selector.accepts, hread, hmore howner.1, ownerRead_eq_iff.mpr howner, List.all_cons,
    List.all_cons, List.all_nil, Bool.and_true, Bool.and_eq_true, Cluster.Term.holds_equals,
    Cluster.Term.holds_equals]

end Owner

/-- A selection by an owner is the pods labelled with that owner, whichever pods are stored, exactly
if the name of the owner stands for itself. -/
theorem listPods_podsLabelled_iff {id owner : String} (hid : Name.isLegal id = true)
    (hne : owner ≠ "") :
    (∀ (s : Simulator) (now : Instant), s.answer now (.listPods (podSelector id (some owner))) =
        (.ok (s.podsLabelled id owner), s)) ↔ StandsForItself owner := by
  have hplain := Name.isPlain_of_isLegal hid
  constructor
  · intro hall
    let labels : Cluster.Labels := (Dict.insert ∅ Label.owner owner).insert Label.job id
    let pod : Cluster.Pod := { metadata := { labels := some labels } }
    let s : Simulator := { pods := Dict.insert ∅ "pod" pod }
    have howner : labels.get? Label.owner = some owner := by
      rw [Dict.get?_insert, if_neg (by decide), Dict.get?_insert, if_pos rfl]
    have hstored : pod ∈ s.podsLabelled id owner := by
      refine List.mem_filter.mpr ⟨Dict.mem_values.mpr ⟨"pod", ?_⟩, decide_eq_true ⟨?_, howner⟩⟩
      · rw [Dict.get?_insert, if_pos rfl]
      · exact (Dict.get?_insert ..).trans (if_pos rfl)
    have hselected : Simulator.select s.pods (·.metadata) (podSelector id (some owner)) =
        s.podsLabelled id owner :=
      Except.ok.inj (congrArg Prod.fst (hall s (Instant.ofMillis 0)))
    rw [← hselected] at hstored
    -- The pod is labelled with the name itself, and the selector demands the one that is read.
    have hread := (owner_of_accepts_podSelector hplain hne (List.mem_filter.mp hstored).2).2
    rw [Option.bind_some, howner, Option.some_inj] at hread
    exact ownerRead_eq_iff.mp hread.symm
  · intro howner s now
    have hsame : Simulator.select s.pods (·.metadata) (podSelector id (some owner)) =
        s.podsLabelled id owner := by
      refine List.filter_congr fun pod _ => ?_
      rw [Bool.eq_iff_iff, accepts_podSelector_owner hplain hne howner, decide_eq_true_iff]
    rw [← hsame]
    rfl

/-- A blank inside of a name is kept, one at its end is not. -/
theorem listPods_podsLabelled_smith :
    (∀ (s : Simulator) (now : Instant),
      s.answer now (.listPods (podSelector "hello-00001" (some "Alice Smith"))) =
        (.ok (s.podsLabelled "hello-00001" "Alice Smith"), s)) ∧
    ¬ ∀ (s : Simulator) (now : Instant),
      s.answer now (.listPods (podSelector "hello-00001" (some "Alice "))) =
        (.ok (s.podsLabelled "hello-00001" "Alice "), s) :=
  ⟨(listPods_podsLabelled_iff (by decide) (by decide)).mpr (by decide),
    fun hall => absurd ((listPods_podsLabelled_iff (by decide) (by decide)).mp hall) (by decide)⟩

/-- A comma behind the name of another owner selects the pods of that owner. -/
theorem not_listPods_podsLabelled :
    ¬ ∀ (id owner : String) (s : Simulator) (now : Instant), Name.isLegal id = true → owner ≠ "" →
      s.answer now (.listPods (podSelector id (some owner))) = (.ok (s.podsLabelled id owner), s) := by
  intro hall
  let labels : Cluster.Labels := Dict.ofList [(Label.job, "hello-00001"), (Label.owner, "alice")]
  let s : Simulator :=
    { pods := Dict.insert ∅ "hello-00001-pod" { metadata := { labels := some labels } } }
  have hselected :
      Simulator.select s.pods (·.metadata) (podSelector "hello-00001" (some "alice,")) =
        s.podsLabelled "hello-00001" "alice," :=
    Except.ok.inj (congrArg Prod.fst
      (hall "hello-00001" "alice," s (Instant.ofMillis 0) (by decide) (by decide)))
  have hone : (Simulator.select s.pods (·.metadata)
      (podSelector "hello-00001" (some "alice,"))).length = 1 := by
    decide
  have hnone : (s.podsLabelled "hello-00001" "alice,").length = 0 := by decide
  rw [hselected, hnone] at hone
  cases hone

end TaskEngine
