import TaskEngine.Proofs.ResultProtocol

/-!
# The grammar of a reported result

A text reports a result if it is made of a front, a mark, a span, a mark and a back, where neither
the front nor the span holds a mark. As no mark begins inside of another one, a text is divided in
this way at most once, and it is as soon as it holds two marks that stand apart. What is reported is
the span without line ends and backslashes, whatever the back is.
-/

namespace TaskEngine.Extraction

/-- A division of a text at its first two marks. -/
@[ext] structure Division (text : String) where
  /-- What stands before the first mark. -/
  front : String
  /-- What stands between the marks. -/
  span : String
  /-- What stands behind the second mark. -/
  back : String
  /-- Parts and marks make up the text. -/
  text_eq : text = front ++ mark ++ span ++ mark ++ back
  front_free : IsFree front
  span_free : IsFree span

/-- A text without its line ends and backslashes. -/
def stripped (text : String) : String :=
  String.ofList (text.toList.filter fun c => c ≠ '\n' ∧ c ≠ '\\')

namespace Division

variable {text : String}

/-- The same front and span before another back. -/
def withBack (d : Division text) (back : String) :
    Division (d.front ++ mark ++ d.span ++ mark ++ back) :=
  { d with back, text_eq := rfl }

/-- The characters of a divided text. -/
theorem toList_eq (d : Division text) : text.toList =
    d.front.toList ++ (mark.toList ++ (d.span.toList ++ (mark.toList ++ d.back.toList))) := by
  conv_lhs => rw [d.text_eq]
  simp

/-- The span of a division is the candidate. -/
theorem candidate?_eq (d : Division text) : candidate? text = some (stripped d.span) := by
  have hkept : ∀ c : Char, (!isDropped c) = decide (c ≠ '\n' ∧ c ≠ '\\') := by
    intro c
    simp [isDropped, beq_eq_decide]
  have hcandidate := candidate?_of_free d.front_free d.span_free d.back
  simp only [hkept] at hcandidate
  rw [← d.text_eq] at hcandidate
  exact hcandidate

/-- A text is divided in one way at most: both marks are where it is cut. -/
theorem subsingleton : Subsingleton (Division text) := by
  constructor
  intro d e
  have hcut := cutFirst?_mark d.front_free (d.span.toList ++ (mark.toList ++ d.back.toList))
  have hcut' := cutFirst?_mark e.front_free (e.span.toList ++ (mark.toList ++ e.back.toList))
  rw [← d.toList_eq] at hcut
  rw [← e.toList_eq, hcut, Option.some.injEq, Prod.mk.injEq] at hcut'
  obtain ⟨hfront, hrest⟩ := hcut'
  have hsecond := cutFirst?_mark d.span_free d.back.toList
  rw [hrest, cutFirst?_mark e.span_free, Option.some.injEq, Prod.mk.injEq] at hsecond
  obtain ⟨hspan, hback⟩ := hsecond
  exact Division.ext (String.toList_inj.mp hfront) (String.toList_inj.mp hspan.symm)
    (String.toList_inj.mp hback.symm)

end Division

variable {text : String}

/-! ## Texts with two marks -/

/-- A text that is not free of marks has a first one. -/
theorem exists_front_of_not_isFree (h : ¬ IsFree text) :
    ∃ front back, text = front ++ mark ++ back ∧ IsFree front := by
  obtain ⟨front, back, hparts, hfront⟩ : ∃ front back,
      text.toList = front ++ (mark.toList ++ back) ∧ ¬ mark.toList <:+: front :=
    Text.exists_first_mark (not_not.mp h)
  refine ⟨String.ofList front, String.ofList back, ?_, ?_⟩
  · apply String.toList_inj.mp
    simp [hparts]
  · rw [IsFree, String.toList_ofList]
    exact hfront

theorem not_isFree_append (front back : String) : ¬ IsFree (front ++ mark ++ back) := by
  rw [IsFree, not_not, String.toList_append, String.toList_append, List.append_assoc]
  exact List.infix_append' _ _ _

/-- A text is divided if it holds two marks that do not overlap, wherever they stand. -/
theorem nonempty_division_iff :
    Nonempty (Division text) ↔ ∃ a b c, text = a ++ mark ++ b ++ mark ++ c := by
  constructor
  · rintro ⟨d⟩
    exact ⟨d.front, d.span, d.back, d.text_eq⟩
  · rintro ⟨a, b, c, rfl⟩
    -- The first mark is the given one or stands before it; another one follows either way.
    obtain ⟨front, rest, hparts, hfront, hrest⟩ : ∃ front rest,
        a ++ mark ++ b ++ mark ++ c = front ++ mark ++ rest ∧ IsFree front ∧ ¬ IsFree rest := by
      by_cases ha : IsFree a
      · exact ⟨a, b ++ mark ++ c, by simp [String.append_assoc], ha, not_isFree_append b c⟩
      · obtain ⟨front, back, rfl, hfront⟩ := exists_front_of_not_isFree ha
        exact ⟨front, back ++ mark ++ (b ++ mark ++ c), by simp [String.append_assoc], hfront,
          not_isFree_append back _⟩
    obtain ⟨span, back, rfl, hspan⟩ := exists_front_of_not_isFree hrest
    exact ⟨⟨front, span, back, by rw [hparts]; simp [String.append_assoc], hfront, hspan⟩⟩

/-- A text that is cut twice is divided. -/
theorem nonempty_division_of_span? {span : List Char} (h : span? text.toList = some span) :
    Nonempty (Division text) := by
  obtain ⟨⟨front, rest⟩, hfirst, h⟩ := Option.bind_eq_some_iff.mp h
  obtain ⟨⟨between, back⟩, hsecond, -⟩ := Option.bind_eq_some_iff.mp h
  have htext : text = String.ofList front ++ mark ++ String.ofList between ++ mark ++
      String.ofList back := by
    apply String.toList_inj.mp
    rw [Text.eq_of_cutFirst? hfirst, Text.eq_of_cutFirst? hsecond]
    simp
  refine ⟨⟨String.ofList front, String.ofList between, String.ofList back, htext, ?_, ?_⟩⟩
  · rw [IsFree, String.toList_ofList]
    exact Text.free_of_cutFirst? hfirst
  · rw [IsFree, String.toList_ofList]
    exact Text.free_of_cutFirst? hsecond

/-! ## Candidates -/

theorem candidate?_eq_some_iff {candidate : String} :
    candidate? text = some candidate ↔ ∃ d : Division text, candidate = stripped d.span := by
  constructor
  · intro h
    obtain ⟨span, hspan, -⟩ := Option.map_eq_some_iff.mp h
    obtain ⟨d⟩ := nonempty_division_of_span? hspan
    rw [d.candidate?_eq, Option.some_inj] at h
    exact ⟨d, h.symm⟩
  · rintro ⟨d, rfl⟩
    exact d.candidate?_eq

theorem ofText_eq_absent_iff : ofText text = .absent ↔ ¬ Nonempty (Division text) := by
  have hnone : ofText text = .absent ↔ candidate? text = none := by
    rw [ofText]
    cases candidate? text with
    | none => simp
    | some candidate =>
      simp only [reduceCtorEq, iff_false]
      split <;> simp
  rw [hnone, Option.eq_none_iff_forall_ne_some]
  constructor
  · rintro hnone ⟨d⟩
    exact hnone _ d.candidate?_eq
  · intro hempty candidate hcandidate
    obtain ⟨d, -⟩ := candidate?_eq_some_iff.mp hcandidate
    exact hempty ⟨d⟩

/-- The candidate of a text is the stripped span of its only division, whatever stands behind it,
and there is no result exactly if the text holds fewer than two marks that do not overlap. -/
theorem result_grammar (text : String) :
    (∀ candidate, candidate? text = some candidate ↔
        ∃ d : Division text, candidate = stripped d.span) ∧
      Subsingleton (Division text) ∧
      (∀ (d : Division text) (back : String),
        candidate? (d.front ++ mark ++ d.span ++ mark ++ back) = candidate? text ∧
          ofText (d.front ++ mark ++ d.span ++ mark ++ back) = ofText text) ∧
      (ofText text = .absent ↔ ¬ ∃ a b c, text = a ++ mark ++ b ++ mark ++ c) := by
  refine ⟨fun candidate => candidate?_eq_some_iff, Division.subsingleton, fun d back => ?_, ?_⟩
  · have hcandidate : candidate? (d.front ++ mark ++ d.span ++ mark ++ back) = candidate? text := by
      rw [(d.withBack back).candidate?_eq, d.candidate?_eq]
      rfl
    exact ⟨hcandidate, by rw [ofText, ofText, hcandidate]⟩
  · rw [ofText_eq_absent_iff, nonempty_division_iff]

/-- A mark that only stripping makes is none. -/
example : candidate? "^^JSON^JS\nON^JSON" = some "^JSON" := by decide +kernel

end TaskEngine.Extraction
