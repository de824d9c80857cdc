import TaskEngine.Proofs.Json.RoundTrip
import TaskEngine.Proofs.Marks
import TaskEngine.Proofs.Ownership

/-!
# Results inside logs, end to end

A container reports a result by printing JSON text between two marks. All logs of a job are joined
into one text, under a header line each, before the marks are looked for. Headers and line ends
neither make a mark nor break one, so the first mark of the joined text is the first one that was
printed; and taking line ends out of a JSON text leaves a text of the same value.
-/

namespace TaskEngine

open Engine

namespace Extraction

/-! ## Texts free of marks -/

/-- Whether a text holds no mark. -/
def IsFree (text : String) : Prop := ¬ mark.toList <:+: text.toList

instance (text : String) : Decidable (IsFree text) :=
  inferInstanceAs (Decidable (¬ mark.toList <:+: text.toList))

/-- The mark by its characters. -/
theorem mark_toList : mark.toList = ['^', 'J', 'S', 'O', 'N'] := rfl

/-- A text without a caret is free of marks. -/
theorem isFree_of_not_mem {text : String} (h : '^' ∉ text.toList) : IsFree text := by
  rw [IsFree, mark_toList]
  exact Text.free_of_not_mem h

/-- Texts free of marks make no mark when they are joined by a line end. -/
theorem IsFree.append_line {front back : String} (hfront : IsFree front) (hback : IsFree back) :
    IsFree (front ++ "\n" ++ back) := by
  have hjoined : (front ++ "\n" ++ back).toList = front.toList ++ '\n' :: back.toList := by simp
  rw [IsFree, hjoined]
  exact Text.free_append_cons (by decide) hfront hback

/-- A text is cut at a mark behind a part that is free of marks. -/
theorem cutFirst?_mark {front : String} (h : IsFree front) (back : List Char) :
    Text.cutFirst? mark.toList (front.toList ++ (mark.toList ++ back)) =
      some (front.toList, back) := by
  rw [IsFree, mark_toList] at h
  rw [mark_toList]
  exact Text.cutFirst?_of_free (by decide) h back

/-- What stands between the first two marks of a text is its candidate. -/
theorem candidate?_of_free {front span : String} (hfront : IsFree front) (hspan : IsFree span)
    (back : String) :
    candidate? (front ++ mark ++ span ++ mark ++ back) =
      some (String.ofList (span.toList.filter fun c => !isDropped c)) := by
  have htext : (front ++ mark ++ span ++ mark ++ back).toList =
      front.toList ++ (mark.toList ++ (span.toList ++ (mark.toList ++ back.toList))) := by
    simp
  rw [candidate?, span?, htext, cutFirst?_mark hfront, Option.bind_eq_bind, Option.bind_some]
  simp only [cutFirst?_mark hspan]
  rfl

/-! ## Sections of logs -/

/-- A section is a header line, and a text that is empty or ends its line. -/
theorem logSection_eq (pod container text : String) :
    ∃ body, logSection pod container text = "==> " ++ pod ++ "/" ++ container ++ " <==\n" ++ body ∧
      (body = "" ∨ body = text ++ "\n" ∨ ∃ lines, text = lines ++ "\n" ∧ body = text) := by
  refine ⟨text ++ (if text.toList.getLast?.any (· ≠ '\n') then "\n" else ""), ?_, ?_⟩
  · simp only [logSection, String.append_assoc]
  cases hlast : text.toList.getLast? with
  | none =>
    have hempty : text = "" := String.toList_inj.mp (List.getLast?_eq_none_iff.mp hlast)
    exact .inl (by simp [hempty])
  | some c =>
    by_cases hc : c = '\n'
    · subst hc
      obtain ⟨lines, hlines⟩ := List.getLast?_eq_some_iff.mp hlast
      refine .inr (.inr ⟨String.ofList lines, ?_, by simp⟩)
      apply String.toList_inj.mp
      simpa using hlines
    · exact .inr (.inl (by simp [hc]))

/-- The header of a container whose names hold no caret is free of marks. -/
theorem isFree_header {pod container : String} (hpod : '^' ∉ pod.toList)
    (hcontainer : '^' ∉ container.toList) :
    IsFree ("==> " ++ pod ++ "/" ++ container ++ " <==") := by
  apply isFree_of_not_mem
  simp [hpod, hcontainer]

/-- A header neither makes nor breaks a mark. -/
theorem IsFree.append_header {pod container text : String} (hpod : '^' ∉ pod.toList)
    (hcontainer : '^' ∉ container.toList) (htext : IsFree text) :
    IsFree ("==> " ++ pod ++ "/" ++ container ++ " <==\n" ++ text) := by
  have hheader := (isFree_header hpod hcontainer).append_line htext
  have hjoined : "==> " ++ pod ++ "/" ++ container ++ " <==\n" ++ text =
      "==> " ++ pod ++ "/" ++ container ++ " <==" ++ "\n" ++ text := by
    apply String.toList_inj.mp
    simp
  rwa [hjoined]

/-- A section of a text that is free of marks can stand before any other such text. -/
theorem IsFree.append_section {pod container text rest : String} (hpod : '^' ∉ pod.toList)
    (hcontainer : '^' ∉ container.toList) (htext : IsFree text) (hrest : IsFree rest) :
    IsFree (logSection pod container text ++ rest) := by
  obtain ⟨body, hsection, hbody⟩ := logSection_eq pod container text
  rw [hsection, String.append_assoc]
  apply IsFree.append_header hpod hcontainer
  rcases hbody with rfl | rfl | ⟨lines, rfl, rfl⟩
  · simpa using hrest
  · exact htext.append_line hrest
  · have hlines : IsFree lines := by
      intro hmark
      apply htext
      rw [String.toList_append]
      exact hmark.trans (List.prefix_append _ _).isInfix
    exact hlines.append_line hrest

/-- The joined sections of logs. -/
def sections (texts : String → String → String) (logs : List (String × String)) : String :=
  Text.joinWith "" (logs.map fun log => logSection log.1 log.2 (texts log.1 log.2))

/-- Texts that are joined without a separator follow one another. -/
theorem joinWith_cons (part : String) (rest : List String) :
    Text.joinWith "" (part :: rest) = part ++ Text.joinWith "" rest := by
  cases rest with
  | nil => simp [Text.joinWith]
  | cons next rest => simp [Text.joinWith]

theorem sections_cons (texts : String → String → String) (log : String × String)
    (logs : List (String × String)) :
    sections texts (log :: logs) =
      logSection log.1 log.2 (texts log.1 log.2) ++ sections texts logs :=
  joinWith_cons _ _

theorem sections_append (texts : String → String → String) (front back : List (String × String)) :
    sections texts (front ++ back) = sections texts front ++ sections texts back := by
  induction front with
  | nil => simp [sections, Text.joinWith]
  | cons log front ih => rw [List.cons_append, sections_cons, sections_cons, ih, String.append_assoc]

/-- Sections of logs that are free of marks can stand before any other such text. -/
theorem IsFree.append_sections {texts : String → String → String} {logs : List (String × String)}
    {rest : String} (hnames : ∀ log ∈ logs, '^' ∉ log.1.toList ∧ '^' ∉ log.2.toList)
    (hlogs : ∀ log ∈ logs, IsFree (texts log.1 log.2)) (hrest : IsFree rest) :
    IsFree (sections texts logs ++ rest) := by
  induction logs with
  | nil => simpa [sections, Text.joinWith] using hrest
  | cons log logs ih =>
    have hlog := hnames log List.mem_cons_self
    rw [sections_cons, String.append_assoc]
    apply IsFree.append_section hlog.1 hlog.2 (hlogs log List.mem_cons_self)
    apply ih
    · exact fun other hother => hnames other (List.mem_cons_of_mem log hother)
    · exact fun other hother => hlogs other (List.mem_cons_of_mem log hother)

/-- The first log that holds a mark has a text between its first two marks. -/
def Reports (texts : String → String → String) (logs : List (String × String)) (span : String) :
    Prop :=
  ∃ before log after front back, logs = before ++ log :: after ∧
    (∀ earlier ∈ before, IsFree (texts earlier.1 earlier.2)) ∧ IsFree front ∧
      texts log.1 log.2 = front ++ mark ++ span ++ mark ++ back

/-- The candidate of joined logs is what the first log with a mark reports. -/
theorem candidate?_sections {texts : String → String → String} {logs : List (String × String)}
    {span : String} (hnames : ∀ log ∈ logs, '^' ∉ log.1.toList ∧ '^' ∉ log.2.toList)
    (hspan : IsFree span) (h : Reports texts logs span) :
    candidate? (sections texts logs) =
      some (String.ofList (span.toList.filter fun c => !isDropped c)) := by
  obtain ⟨before, log, after, front, back, rfl, hbefore, hfront, htext⟩ := h
  have hlog := hnames log (List.mem_append_right before List.mem_cons_self)
  -- All that stands before the first mark: earlier sections, a header, and the text up to the mark.
  have hahead : IsFree (sections texts before ++
      ("==> " ++ log.1 ++ "/" ++ log.2 ++ " <==\n" ++ front)) := by
    apply IsFree.append_sections
    · exact fun earlier hmem => hnames earlier (List.mem_append_left _ hmem)
    · exact hbefore
    · exact hfront.append_header hlog.1 hlog.2
  obtain ⟨ending, hending⟩ : ∃ ending, logSection log.1 log.2 (texts log.1 log.2) =
      "==> " ++ log.1 ++ "/" ++ log.2 ++ " <==\n" ++ texts log.1 log.2 ++ ending := ⟨_, rfl⟩
  have hjoined : sections texts (before ++ log :: after) =
      sections texts before ++ ("==> " ++ log.1 ++ "/" ++ log.2 ++ " <==\n" ++ front) ++
        mark ++ span ++ mark ++ (back ++ ending ++ sections texts after) := by
    rw [sections_append, sections_cons, hending, htext]
    simp only [String.append_assoc]
  rw [hjoined]
  exact candidate?_of_free hahead hspan _

/-! ## Renderings -/

/-- A value is extracted from logs that report one of its texts. -/
theorem ofText_sections {texts : String → String → String} {logs : List (String × String)}
    {value : Json} {text : String}
    (hnames : ∀ log ∈ logs, '^' ∉ log.1.toList ∧ '^' ∉ log.2.toList)
    (htext : text = value.compact ∨ text = value.pretty) (hslash : '\\' ∉ text.toList)
    (hfree : IsFree text) (hfits : value.Fits) (hdepth : value.depth ≤ Json.maxDepth)
    (hback : Json.read? value.compact = some value) (h : Reports texts logs text) :
    ofText (sections texts logs) = .parsed value := by
  have hfilter : text.toList.filter (fun c => !isDropped c) = text.toList.filter (· ≠ '\n') := by
    refine List.filter_congr fun c hc => ?_
    have hne : (c == '\\') = false := beq_eq_false_iff_ne.mpr fun he => hslash (he ▸ hc)
    rw [isDropped, hne, Bool.or_false, decide_not, beq_eq_decide]
  have hvalue : value.reread = value := by
    rw [Json.read?_compact hfits hdepth] at hback
    exact Option.some.inj hback
  rw [ofText, candidate?_sections hnames hfree h, hfilter]
  simp only [Json.read?_filter htext hfits hdepth, hvalue]

end Extraction

/-! ## Collecting -/

section Collecting

/-- Surroundings in which the pods of a job are found, and a log for each of their containers. -/
structure Offers {σ : Type} (answer : (r : Request) → σ → r.Reply × σ) (s : σ) (id : String)
    (owner : Option String) (pods : List Cluster.Pod) (texts : String → String → String) :
    Prop where
  found : answer (.workloads (.listPods (podSelector id owner))) s = (.ok pods, s)
  read : ∀ log ∈ startedLogs pods,
    answer (.workloads (.podLogs log.1 log.2)) s = (.ok (texts log.1 log.2), s)

variable {σ : Type} {answer : (r : Request) → σ → r.Reply × σ} {s : σ} {id : String}
  {owner : Option String} {pods : List Cluster.Pod} {texts : String → String → String}

/-- Logs that can be read are joined, each in its section. -/
theorem run_readLogs (h : ∀ log ∈ startedLogs pods,
      answer (.workloads (.podLogs log.1 log.2)) s = (.ok (texts log.1 log.2), s)) :
    (readLogs pods).run answer s = (.ok (Extraction.sections texts (startedLogs pods)), s) := by
  have hsections : (Dialogue.each readSection (startedLogs pods)).run answer s =
      (.ok ((startedLogs pods).map fun log => logSection log.1 log.2 (texts log.1 log.2)), s) := by
    apply Dialogue.run_each
    intro log hlog
    refine (Dialogue.run_andThen_of_ok (a := texts log.1 log.2) (t := s) ?_).trans rfl
    exact congrArg (fun reply => (reply.1, reply.2)) (h log hlog)
  exact (Dialogue.run_andThen_of_ok hsections).trans rfl

/-- The output of a job is made of the logs of its pods, and the extraction of its result is counted. -/
theorem Offers.run_collectOutput_counted (h : Offers answer s id owner pods texts)
    (hne : pods ≠ []) :
    (collectOutput id owner).run answer s =
      (.ok {
        stdout := Extraction.sections texts (startedLogs pods)
        data := (Extraction.ofText (Extraction.sections texts (startedLogs pods))).data
        error := (ContainerFault.ofPods? pods).map ContainerFault.message },
      (answer (.count (.extracted
        (Extraction.ofText (Extraction.sections texts (startedLogs pods))).outcome)) s).2) := by
  have hempty : pods.isEmpty = false := by simpa using hne
  have hfind : (findPods id owner).run answer s = (.ok pods, s) := by
    refine (Dialogue.run_andThen_of_ok (a := pods) (t := s) ?_).trans ?_
    · exact congrArg (fun reply => (reply.1, reply.2)) h.found
    · simp only [hempty, Bool.false_eq_true, if_false]
      rfl
  refine (Dialogue.run_andThen_of_ok hfind).trans ?_
  exact (Dialogue.run_andThen_of_ok (run_readLogs h.read)).trans rfl

theorem Offers.run_collectOutput (h : Offers answer s id owner pods texts) (hne : pods ≠ []) :
    ((collectOutput id owner).run answer s).1 = .ok {
      stdout := Extraction.sections texts (startedLogs pods)
      data := (Extraction.ofText (Extraction.sections texts (startedLogs pods))).data
      error := (ContainerFault.ofPods? pods).map ContainerFault.message } :=
  congrArg Prod.fst (h.run_collectOutput_counted hne)

/-- What the first container with a mark reports between its marks is the data of the job: a value
whose compact or indented text it prints comes out as it is, whatever else is logged. -/
theorem collects_result (hoffers : Offers answer s id owner pods texts)
    (hnames : ∀ log ∈ startedLogs pods, '^' ∉ log.1.toList ∧ '^' ∉ log.2.toList)
    {value : Json} (hfits : value.Fits) (hdepth : value.depth ≤ Json.maxDepth)
    (hback : Json.read? value.compact = some value) {text : String}
    (htext : text = value.compact ∨ text = value.pretty) (hslash : '\\' ∉ text.toList)
    (hfree : Extraction.IsFree text)
    (hreports : Extraction.Reports texts (startedLogs pods) text) :
    ∃ output, ((collectOutput id owner).run answer s).1 = .ok output ∧
      output.data = some value := by
  have hne : pods ≠ [] := by
    rintro rfl
    obtain ⟨before, log, after, front, back, hnil, -⟩ := hreports
    exact absurd hnil.symm (by simp [startedLogs])
  refine ⟨_, hoffers.run_collectOutput hne, ?_⟩
  simp only [Extraction.ofText_sections hnames htext hslash hfree hfits hdepth hback hreports,
    Extraction.data]

end Collecting

namespace World

/-- The log that is kept for a container of a pod. -/
def logOf (w : World) (pod container : String) : Option String :=
  (w.workloads.logs.get? pod).bind (·.get? container)

/-- A world in which no call fails and every started container has a log offers the logs of a job. -/
theorem offers {w : World} (hcalm : w.failing = []) {id : String} {owner : Option String}
    {texts : String → String → String}
    (hlogs : ∀ log ∈ startedLogs (w.podsOf id owner),
      w.logOf log.1 log.2 = some (texts log.1 log.2)) :
    Offers answer w id owner (w.podsOf id owner) texts where
  found := if_neg (by simp [hcalm])
  read := by
    intro log hlog
    have hlog := hlogs log hlog
    rw [logOf] at hlog
    refine (if_neg (by simp [hcalm])).trans ?_
    simp only [hlog]

/-- A greeting that prints its result in several lines, among other output. -/
def printing : World := after .standard {} (greeting ++
  [.script { mainLogs := "hi\n^JSON[\n  1\n]^JSON\nbye" },
    .call (.createJob ⟨"alice", "local"⟩ "hello" none)])

/-- The logs of the greeting. -/
def printed (_ container : String) : String :=
  if container = "hello" then "hi\n^JSON[\n  1\n]^JSON\nbye" else ""

/-- The printed result is the data of the greeting. -/
theorem collects_result_printing :
    ∃ output, ((collectOutput "hello-00001" none).run answer printing).1 = .ok output ∧
      output.data = some (.arr [.num (.int 1)]) := by
  have hpods : startedLogs (printing.podsOf "hello-00001" none) =
      [("hello-00001-pod", "init-hello"), ("hello-00001-pod", "hello")] := by decide +kernel
  have hlogs : ∀ log ∈ startedLogs (printing.podsOf "hello-00001" none),
      printing.logOf log.1 log.2 = some (printed log.1 log.2) := by
    rw [hpods]
    decide +kernel
  refine collects_result (offers (by decide +kernel) hlogs) ?_ ?_ ?_ ?_ (.inr rfl) ?_ ?_ ?_
  · rw [hpods]
    decide +kernel
  · simp [Json.Fits, Json.FitsItems, JsonNumber.Fits, JsonNumber.maxUnsigned]
  · decide +kernel
  · decide +kernel
  · decide +kernel
  · decide +kernel
  · rw [hpods]
    exact ⟨[("hello-00001-pod", "init-hello")], ("hello-00001-pod", "hello"), [], "hi\n", "\nbye",
      rfl, by decide +kernel, by decide +kernel, by decide +kernel⟩

end World

end TaskEngine
