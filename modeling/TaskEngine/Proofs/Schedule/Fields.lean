import Mathlib.Data.List.Forall2
import TaskEngine.Proofs.Schedule.Reading
import TaskEngine.Proofs.Words
import TaskEngine.Schedule.Basic

/-!
# Schedules field by field

The parts of a schedule between blanks are meant to be its fields, one part for each. If every part,
taken alone, is read as a whole, then the reader of consecutive fields cuts the text at the same
places: a schedule is accepted exactly if every part is a valid field. Nothing makes the reader stop at
blanks, however. A part may hold two fields, and a field may go on in the next part, so a text of five
parts may be accepted without being valid field by field.
-/

namespace TaskEngine.Schedule

open Text (isPlainBlank skipBlanks)

/-! ## Parts and fields -/

/-- The fields of the five parts, in order. -/
def wordFields : List Field := [.minute, .hour, .dayOfMonth, .month, .dayOfWeek]

/-- The parts of a schedule between blanks. -/
def parts (text : String) : List (List Char) :=
  Text.splitRuns isPlainBlank (Text.trim text).toList

/-- Whether a part, taken alone, is read as one field, valid or not. -/
def Field.spans (field : Field) (part : List Char) : Bool :=
  match readItems? field.allowsQuestion part with
  | some (_, []) => true
  | _ => false

/-- The parts are five, and each is one field to the reader. -/
def PartsAreFields (text : String) : Prop :=
  List.Forall₂ (fun field part => field.spans part = true) wordFields (parts text)

/-- The parts are five, and each is a valid field. -/
def FieldByField (text : String) : Prop :=
  List.Forall₂ (fun field part => field.accepts part = true) wordFields (parts text)

instance (text : String) : Decidable (PartsAreFields text) :=
  inferInstanceAs (Decidable (List.Forall₂ _ _ _))

instance (text : String) : Decidable (FieldByField text) :=
  inferInstanceAs (Decidable (List.Forall₂ _ _ _))

theorem Field.spans_iff {field : Field} {part : List Char} :
    field.spans part = true ↔ ∃ items, readItems? field.allowsQuestion part = some (items, []) := by
  rw [spans]
  split
  · rename_i items hread
    exact iff_of_true rfl ⟨items, hread⟩
  · rename_i hother
    refine iff_of_false Bool.false_ne_true ?_
    rintro ⟨items, hread⟩
    exact hother items hread

/-- A part that is a field is valid if its items fit. -/
theorem Field.accepts_eq {field : Field} {part : List Char} {items : List Item}
    (h : readItems? field.allowsQuestion part = some (items, [])) :
    field.accepts part = items.all (·.fits field) := by
  rw [accepts, h]

/-- A valid field is a field. -/
theorem Field.spans_of_accepts {field : Field} {part : List Char}
    (h : field.accepts part = true) : field.spans part = true := by
  rw [accepts] at h
  split at h
  · rename_i items hread
    exact spans_iff.mpr ⟨items, hread⟩
  · cases h

theorem FieldByField.partsAreFields {text : String} (h : FieldByField text) :
    PartsAreFields text :=
  h.imp fun _ _ => Field.spans_of_accepts

/-! ## Consecutive fields -/

/-- Where fields are read up to the end, no sign stands in front. -/
theorem isSign_head?_of_readFields? {fields : List Field} {cs : List Char}
    {items : List (List Item)} (h : readFields? fields cs = some (items, [])) :
    ∀ c ∈ cs.head?, isSign c = false := by
  intro c hc
  cases cs with
  | nil => cases hc
  | cons d cs =>
    obtain rfl := Option.some.inj hc
    cases fields with
    | nil => cases h
    | cons field fields =>
      by_contra hsign
      rw [readFields?, readItems?_of_isSign (eq_true_of_ne_false hsign)] at h
      cases h

/-- Parts that are fields are read one after the other, and they fit if each of them is valid. -/
theorem readFields?_of_spans {fields : List Field} {runs : List (List Char)}
    (h : List.Forall₂ (fun field part => field.spans part = true) fields runs) {cs : List Char}
    (hcut : Text.splitRuns isPlainBlank cs = runs) :
    ∃ items, readFields? fields (skipBlanks cs) = some (items, []) ∧
      (fit fields items = true ↔
        List.Forall₂ (fun field part => field.accepts part = true) fields runs) := by
  -- what stands behind the first part is a fence for it, as the later parts start with no sign
  induction h generalizing cs with
  | nil =>
    have hend : skipBlanks cs = [] := by
      refine List.dropWhile_eq_nil_iff.mpr fun c hc => ?_
      rcases Text.exists_mem_splitRuns hc with hblank | ⟨run, hrun, -⟩
      · exact hblank
      · rw [hcut] at hrun
        cases hrun
    rw [hend]
    exact ⟨[], rfl, iff_of_true rfl .nil⟩
  | @cons field part fields runs hpart hruns ih =>
    have hfront : ∀ c ∈ (skipBlanks cs).head?, isPlainBlank c = false := by
      intro c hc
      have hother := List.head?_dropWhile_not isPlainBlank cs
      rw [← skipBlanks, Option.mem_def.mp hc] at hother
      exact hother
    rw [← Text.splitRuns_dropWhile, ← skipBlanks] at hcut
    obtain ⟨rest, hcs, hne, hblank, hrest⟩ := Text.exists_of_splitRuns_eq_cons hfront hcut
    have hplain : ∀ c ∈ part, isPlainBlank c = false :=
      Text.of_mem_splitRuns (hcut ▸ List.mem_cons_self)
    obtain ⟨items, hitems⟩ := Field.spans_iff.mp hpart
    obtain ⟨others, hothers, hfit⟩ := ih hrest
    have hfence : IsFence rest := ⟨hblank, isSign_head?_of_readFields? hothers⟩
    refine ⟨items :: others, ?_, ?_⟩
    · rw [readFields?, hcs, readItems?_append hplain hitems hfence]
      simp only [Option.bind_eq_bind, Option.bind_some, hothers]
    · rw [List.forall₂_cons, ← hfit, Field.accepts_eq hitems, fit, fit, List.zip_cons_cons,
        List.all_cons, Bool.and_eq_true]

/-- With a zero in front, parts that are fields make a schedule exactly if each of them is valid. -/
theorem acceptsExpression_iff {cs : List Char} {runs : List (List Char)}
    (hcut : Text.splitRuns isPlainBlank cs = runs)
    (h : List.Forall₂ (fun field part => field.spans part = true) wordFields runs) :
    acceptsExpression ('0' :: ' ' :: cs) = true ↔
      List.Forall₂ (fun field part => field.accepts part = true) wordFields runs := by
  have hzero : Field.second.spans ['0'] = true := by decide
  have hvalid : Field.second.accepts ['0'] = true := by decide
  have hfirst : Text.splitRuns isPlainBlank ('0' :: ' ' :: cs) = ['0'] :: runs := by
    have hblank : isPlainBlank ' ' = true := rfl
    have happend : Text.splitRuns isPlainBlank (['0'] ++ ' ' :: cs) =
        ['0'] :: Text.splitRuns isPlainBlank (' ' :: cs) :=
      Text.splitRuns_append (by simp) (List.forall_mem_singleton.mpr rfl) (by simp [hblank])
    rw [Text.splitRuns_cons_of_separator hblank, hcut] at happend
    exact happend
  obtain ⟨items, hread, hfit⟩ := readFields?_of_spans (List.Forall₂.cons hzero h) hfirst
  have hself : skipBlanks ('0' :: ' ' :: cs) = '0' :: ' ' :: cs := rfl
  rw [hself] at hread
  have hyear : readItems? Field.year.allowsQuestion [] = none := rfl
  have hfields : requiredFields = .second :: wordFields := rfl
  rw [acceptsExpression, hfields, hread]
  simp only [hyear, List.isEmpty_nil, Bool.true_and]
  rw [hfit, List.forall₂_cons, and_iff_right hvalid]

/-! ## Whole schedules -/

/-- Among characters of fields, the blanks between parts are all blanks there are. -/
theorem isBlankChar_eq_isPlainBlank {c : Char} (h : isFieldChar c = true) :
    Text.isBlankChar c = isPlainBlank c := by
  by_cases hblank : isPlainBlank c = true
  · rcases isPlainBlank_iff.mp hblank with rfl | rfl | rfl | rfl <;> rfl
  · -- all other characters of fields lie between the star and the letter z
    have hrange : 42 ≤ c.toNat ∧ c.toNat ≤ 122 := by
      simp only [isFieldChar, isSign, Char.isDigit, isAlpha_iff, hblank, Bool.or_false,
        Bool.or_eq_true, Bool.and_eq_true, decide_eq_true_eq, beq_iff_eq, UInt32.le_iff_toNat_le,
        Char.toNat_val, Char.reduceToNat] at h
      rcases h with (((h | h | h) | (rfl | rfl) | rfl) | rfl) | rfl
      · omega
      · omega
      · omega
      all_goals decide
    rw [eq_false_of_ne_true hblank]
    simp only [Text.isBlankChar, Bool.or_eq_false_iff, Bool.and_eq_false_iff,
      decide_eq_false_iff_not, beq_eq_false_iff_ne]
    omega

/-- All characters of parts that are fields are characters of fields. -/
theorem isFieldChar_of_spans {fields : List Field} {runs : List (List Char)}
    (h : List.Forall₂ (fun field part => field.spans part = true) fields runs) :
    ∀ run ∈ runs, ∀ c ∈ run, isFieldChar c = true := by
  induction h with
  | nil => simp
  | cons hpart _ ih =>
    obtain ⟨items, hitems⟩ := Field.spans_iff.mp hpart
    exact List.forall_mem_cons.mpr ⟨(readItems?_takes hitems).isFieldChar, ih⟩

/-- As many words as fields. -/
theorem PartsAreFields.length_words {text : String} (h : PartsAreFields text) :
    (Text.words (Text.trim text)).length = wordCount := by
  have hchars : ∀ c ∈ (Text.trim text).toList, isPlainBlank c = Text.isBlankChar c := by
    intro c hc
    have hcut : isPlainBlank c = true ∨ ∃ run ∈ parts text, c ∈ run :=
      Text.exists_mem_splitRuns hc
    rcases hcut with hblank | ⟨run, hrun, hc⟩
    · exact (isBlankChar_eq_isPlainBlank (isFieldChar_of_isPlainBlank hblank).1).symm
    · exact (isBlankChar_eq_isPlainBlank (isFieldChar_of_spans h run hrun c hc)).symm
  rw [Text.words, List.length_map, ← Text.splitRuns_congr hchars]
  exact h.length_eq.symm

/-- A schedule whose parts are fields is accepted exactly if each of them is valid. -/
theorem validate_iff_of_partsAreFields {text : String}
    (hplain : (Text.trim text).toList.head? ≠ some '@') (h : PartsAreFields text) :
    validate text = .ok () ↔ FieldByField text := by
  have hne : (Text.trim text).isEmpty = false := by
    rw [String.isEmpty_eq_false_iff]
    intro hempty
    have hlength := h.length_words
    rw [hempty] at hlength
    cases hlength
  have hfields : FieldByField text ↔
      acceptsExpression ('0' :: ' ' :: (Text.trim text).toList) = true :=
    (acceptsExpression_iff rfl h).symm
  simp only [validate, hne, Bool.false_eq_true, if_false, if_neg hplain, h.length_words, ne_eq,
    not_true_eq_false, hfields]
  split
  · rename_i haccepted
    exact iff_of_true rfl haccepted
  · rename_i hrefused
    exact iff_of_false nofun hrefused

/-- Acceptance is validity field by field for a schedule exactly if, once it is accepted, its parts
are fields. -/
theorem accepted_iff_fieldByField_iff (text : String)
    (hplain : (Text.trim text).toList.head? ≠ some '@') :
    (validate text = .ok () ↔ FieldByField text) ↔
      (validate text = .ok () → PartsAreFields text) := by
  constructor
  · intro hvalid haccepted
    exact (hvalid.mp haccepted).partsAreFields
  · intro hparts
    constructor
    · intro haccepted
      exact (validate_iff_of_partsAreFields hplain (hparts haccepted)).mp haccepted
    · intro hfields
      exact (validate_iff_of_partsAreFields hplain hfields.partsAreFields).mpr hfields

/-- A schedule with steps, ranges, a question mark and names is accepted for its five fields. -/
theorem accepted_iff_fieldByField_workdays :
    (Text.trim "*/5 8-18 ? JAN,jul mon-fri").toList.head? ≠ some '@' ∧
      (validate "*/5 8-18 ? JAN,jul mon-fri" = .ok () ↔
        FieldByField "*/5 8-18 ? JAN,jul mon-fri") :=
  ⟨by decide, (accepted_iff_fieldByField_iff _ (by decide)).mpr fun _ => by decide⟩

/-- Two stars in one part are two fields, and the fifth part is then the year. -/
theorem not_accepted_iff_fieldByField :
    ¬ ∀ text : String, (Text.trim text).toList.head? ≠ some '@' →
      (validate text = .ok () ↔ FieldByField text) := by
  intro h
  have hstars : ¬ FieldByField "** * * * *" := by decide
  exact hstars ((h "** * * * *" (by decide)).mp rfl)

end TaskEngine.Schedule
