import Mathlib.Data.List.Infix
import TaskEngine.Text.Split

/-!
# Marks in texts

A text is cut at the first occurrence of a mark. Where the first character of a mark does not come
again in it, occurrences cannot overlap, so a mark behind a text that is free of it is the first
one. Texts that are free of a mark stay free when they are joined at a character that is not in it.
-/

namespace TaskEngine.Text

/-- What follows a leading mark. -/
theorem stripPrefix?_eq_some_iff {mark cs rest : List Char} :
    stripPrefix? mark cs = some rest ↔ cs = mark ++ rest := by
  induction mark generalizing cs with
  | nil => simp [stripPrefix?]
  | cons m mark ih =>
    cases cs with
    | nil => simp [stripPrefix?]
    | cons c cs =>
      rw [stripPrefix?, List.cons_append, List.cons.injEq]
      by_cases hm : m = c
      · rw [if_pos hm, ih, and_iff_right hm.symm]
      · rw [if_neg hm]
        simp [Ne.symm hm]

/-- The parts around the first mark make up the text with it. -/
theorem eq_of_cutFirst? {mark cs front back : List Char}
    (h : cutFirst? mark cs = some (front, back)) : cs = front ++ (mark ++ back) := by
  induction cs generalizing front with
  | nil =>
    rw [cutFirst?] at h
    split at h <;> cases h
    simp_all
  | cons c cs ih =>
    rw [cutFirst?] at h
    split at h
    · rename_i rest hhere
      cases h
      rw [List.nil_append]
      exact stripPrefix?_eq_some_iff.mp hhere
    · obtain ⟨⟨later, rest⟩, hlater, heq⟩ := Option.map_eq_some_iff.mp h
      cases heq
      rw [ih hlater, List.cons_append]

/-- A text that is not cut is free of the mark. -/
theorem free_of_cutFirst?_eq_none {mark cs : List Char} (h : cutFirst? mark cs = none) :
    ¬ mark <:+: cs := by
  induction cs with
  | nil =>
    rw [cutFirst?] at h
    split at h <;> cases h
    simp_all
  | cons c cs ih =>
    rw [cutFirst?] at h
    split at h
    · cases h
    · rename_i hhere
      rw [List.infix_cons_iff, not_or]
      refine ⟨?_, ih (Option.map_eq_none_iff.mp h)⟩
      rintro ⟨rest, hrest⟩
      rw [stripPrefix?_eq_some_iff.mpr hrest.symm] at hhere
      cases hhere

/-- What stands before the first mark is free of it. -/
theorem free_of_cutFirst? {m : Char} {mark cs front back : List Char}
    (h : cutFirst? (m :: mark) cs = some (front, back)) : ¬ (m :: mark) <:+: front := by
  induction cs generalizing front with
  | nil => cases h
  | cons c cs ih =>
    rw [cutFirst?] at h
    split at h
    · cases h
      simp
    · rename_i hhere
      obtain ⟨⟨before, after⟩, hcut, hparts⟩ := Option.map_eq_some_iff.mp h
      cases hparts
      rw [List.infix_cons_iff, not_or]
      refine ⟨?_, ih hcut⟩
      rintro ⟨rest, hrest⟩
      have hcs : c :: cs = (m :: mark) ++ (rest ++ (m :: mark) ++ back) := by
        rw [eq_of_cutFirst? hcut, ← List.cons_append, ← hrest]
        simp
      rw [stripPrefix?_eq_some_iff.mpr hcs] at hhere
      cases hhere

/-- A text that holds a mark holds a first one. -/
theorem exists_first_mark {m : Char} {mark cs : List Char} (h : (m :: mark) <:+: cs) :
    ∃ front back, cs = front ++ ((m :: mark) ++ back) ∧ ¬ (m :: mark) <:+: front := by
  cases hcut : cutFirst? (m :: mark) cs with
  | none => exact absurd h (free_of_cutFirst?_eq_none hcut)
  | some parts => exact ⟨parts.1, parts.2, eq_of_cutFirst? hcut, free_of_cutFirst? hcut⟩

/-- Where a mark follows a text, no other one starts in that text and ends behind it: its first
character would come again in it. -/
theorem not_prefix_append {m : Char} {mark front : List Char} (hm : m ∉ mark) (hne : front ≠ [])
    (hfree : ¬ (m :: mark) <:+: front) (back : List Char) :
    ¬ (m :: mark) <+: front ++ ((m :: mark) ++ back) := by
  intro hmark
  have hfront : front <+: front ++ ((m :: mark) ++ back) := List.prefix_append _ _
  rcases List.prefix_or_prefix_of_prefix hmark hfront with hshort | hlong
  · exact hfree hshort.isInfix
  · obtain ⟨rest, hrest⟩ := hlong
    obtain ⟨c, tail, rfl⟩ := List.exists_cons_of_ne_nil hne
    rw [← hrest, List.prefix_append_right_inj] at hmark
    cases rest with
    | nil => exact hfree (by rw [← hrest, List.append_nil])
    | cons d rest =>
      have hd : d = c := (List.cons_prefix_cons.mp hmark).1
      rw [List.cons_append, List.cons.injEq] at hrest
      have hmem : d ∈ mark := hrest.2 ▸ List.mem_append_right tail List.mem_cons_self
      exact hm (hrest.1 ▸ hd ▸ hmem)

/-- A text is cut at a mark that stands behind a part free of it. -/
theorem cutFirst?_of_free {m : Char} {mark front : List Char} (hm : m ∉ mark)
    (hfree : ¬ (m :: mark) <:+: front) (back : List Char) :
    cutFirst? (m :: mark) (front ++ ((m :: mark) ++ back)) = some (front, back) := by
  induction front with
  | nil =>
    rw [List.nil_append, List.cons_append, cutFirst?, ← List.cons_append,
      stripPrefix?_eq_some_iff.mpr rfl]
  | cons c front ih =>
    have hhere : stripPrefix? (m :: mark) (c :: front ++ ((m :: mark) ++ back)) = none := by
      rw [Option.eq_none_iff_forall_ne_some]
      intro rest hrest
      refine not_prefix_append hm (List.cons_ne_nil c front) hfree back ⟨rest, ?_⟩
      exact (stripPrefix?_eq_some_iff.mp hrest).symm
    have hrest : ¬ (m :: mark) <:+: front := fun h => hfree (List.infix_cons_iff.mpr (.inr h))
    rw [List.cons_append] at hhere ⊢
    rw [cutFirst?, hhere, ih hrest]
    rfl

/-- A character that is not in a mark keeps what stands before it apart from what stands behind. -/
theorem free_append_cons {mark front back : List Char} {c : Char} (hc : c ∉ mark)
    (hfront : ¬ mark <:+: front) (hback : ¬ mark <:+: back) : ¬ mark <:+: front ++ c :: back := by
  intro hmark
  rcases List.infix_append_iff.mp hmark with h | h | ⟨first, second, rfl, hfirst, hsecond⟩
  · exact hfront h
  · rcases List.infix_cons_iff.mp h with h | h
    · cases mark with
      | nil => exact hfront (List.nil_infix)
      | cons m mark => exact hc ((List.cons_prefix_cons.mp h).1 ▸ List.mem_cons_self)
    · exact hback h
  · cases second with
    | nil => exact hfront (by rw [List.append_nil]; exact hfirst.isInfix)
    | cons m second =>
      have hm : m = c := (List.cons_prefix_cons.mp hsecond).1
      exact hc (hm ▸ List.mem_append_right first List.mem_cons_self)

/-- A text without the first character of a mark is free of it. -/
theorem free_of_not_mem {m : Char} {mark cs : List Char} (h : m ∉ cs) : ¬ (m :: mark) <:+: cs :=
  fun hmark => h (hmark.subset List.mem_cons_self)

/-- The first mark of one character divides a text. -/
theorem cutFirst?_append {mark : Char} {front : List Char} (h : mark ∉ front)
    (back : List Char) : cutFirst? [mark] (front ++ mark :: back) = some (front, back) :=
  cutFirst?_of_free (List.not_mem_nil) (free_of_not_mem h) back

end TaskEngine.Text
