import Mathlib.Data.List.TakeWhile
import TaskEngine.Text.Blank

/-!
# Words of a text

A text is cut into runs of characters that are no separators. A run ends at the first separator, the
separators in front of it are left out, and every other character is in one of the runs. Words are the
runs without blanks.
-/

namespace TaskEngine.Text

variable {isSeparator : Char → Bool}

/-- A separator starts no run. -/
theorem splitRuns_cons_of_separator {c : Char} (hc : isSeparator c = true) (rest : List Char) :
    splitRuns isSeparator (c :: rest) = splitRuns isSeparator rest := by
  rw [splitRuns.eq_def]
  exact if_pos hc

/-- Characters up to a separator or the end are a run. -/
theorem splitRuns_append {run : List Char} (hne : run ≠ [])
    (hrun : ∀ c ∈ run, isSeparator c = false) {rest : List Char}
    (hrest : ∀ d ∈ rest.head?, isSeparator d = true) :
    splitRuns isSeparator (run ++ rest) = run :: splitRuns isSeparator rest := by
  induction run with
  | nil => exact absurd rfl hne
  | cons c run ih =>
    obtain ⟨hc, hrun⟩ := List.forall_mem_cons.mp hrun
    rw [List.cons_append, splitRuns.eq_def]
    cases run with
    | nil =>
      cases rest with
      | nil => simp [splitRuns, hc]
      | cons d rest =>
        have hd : isSeparator d = true := hrest d rfl
        cases hruns : splitRuns isSeparator (d :: rest) <;> simp [hc, hd, hruns]
    | cons d run =>
      have hd : isSeparator d = false := hrun d List.mem_cons_self
      have hlater := ih (List.cons_ne_nil d run) hrun
      rw [List.cons_append] at hlater ⊢
      simp [hc, hd, hlater]

/-- A run holds no separators. -/
theorem of_mem_splitRuns {cs run : List Char} (h : run ∈ splitRuns isSeparator cs) :
    ∀ c ∈ run, isSeparator c = false := by
  induction cs generalizing run with
  | nil => cases h
  | cons c rest ih =>
    rw [splitRuns.eq_def] at h
    by_cases hc : isSeparator c = true
    · simp only [hc, if_true] at h
      exact ih h
    · rw [Bool.not_eq_true] at hc
      simp only [hc, Bool.false_eq_true, if_false] at h
      split at h
      · rename_i d tail first runs hruns
        rw [hruns] at ih
        split at h
        · rcases List.mem_cons.mp h with rfl | hlater
          · simpa using hc
          · exact ih hlater
        · rcases List.mem_cons.mp h with rfl | hlater
          · exact List.forall_mem_cons.mpr ⟨hc, ih List.mem_cons_self⟩
          · exact ih (List.mem_cons_of_mem first hlater)
      · rcases List.mem_cons.mp h with rfl | hlater
        · simpa using hc
        · exact ih hlater

/-- A character is a separator or in one of the runs. -/
theorem exists_mem_splitRuns {cs : List Char} {c : Char} (h : c ∈ cs) :
    isSeparator c = true ∨ ∃ run ∈ splitRuns isSeparator cs, c ∈ run := by
  induction cs with
  | nil => cases h
  | cons d rest ih =>
    by_cases hd : isSeparator d = true
    · rw [splitRuns_cons_of_separator hd]
      rcases List.mem_cons.mp h with rfl | h
      · exact .inl hd
      · exact ih h
    · rw [splitRuns.eq_def]
      simp only [hd, Bool.false_eq_true, if_false]
      split
      · rename_i e tail first runs hruns
        rw [hruns] at ih
        rcases List.mem_cons.mp h with rfl | h
        · right
          split <;> exact ⟨_, List.mem_cons_self, List.mem_cons_self⟩
        · refine (ih h).imp_right ?_
          rintro ⟨run, hrun, hc⟩
          split
          · exact ⟨run, List.mem_cons_of_mem _ hrun, hc⟩
          · rcases List.mem_cons.mp hrun with rfl | hlater
            · exact ⟨_, List.mem_cons_self, List.mem_cons_of_mem _ hc⟩
            · exact ⟨run, List.mem_cons_of_mem _ hlater, hc⟩
      · rcases List.mem_cons.mp h with rfl | h
        · exact .inr ⟨_, List.mem_cons_self, List.mem_cons_self⟩
        · refine (ih h).imp_right ?_
          rintro ⟨run, hrun, hc⟩
          exact ⟨run, List.mem_cons_of_mem _ hrun, hc⟩

/-- Only the characters of a text decide how it is cut. -/
theorem splitRuns_congr {other : Char → Bool} {cs : List Char}
    (h : ∀ c ∈ cs, isSeparator c = other c) : splitRuns isSeparator cs = splitRuns other cs := by
  induction cs with
  | nil => rfl
  | cons c rest ih =>
    obtain ⟨hc, hrest⟩ := List.forall_mem_cons.mp h
    rw [splitRuns.eq_def, splitRuns.eq_def other]
    simp only [hc, ih hrest]
    cases rest with
    | nil => rfl
    | cons d rest =>
      cases splitRuns other (d :: rest) with
      | nil => rfl
      | cons run runs => simp only [hrest d List.mem_cons_self]

/-- Separators in front of a text are left out. -/
theorem splitRuns_dropWhile (cs : List Char) :
    splitRuns isSeparator (cs.dropWhile isSeparator) = splitRuns isSeparator cs := by
  induction cs with
  | nil => rfl
  | cons c rest ih =>
    by_cases hc : isSeparator c = true
    · rw [List.dropWhile_cons_of_pos hc, ih, splitRuns_cons_of_separator hc]
    · rw [List.dropWhile_cons_of_neg hc]

/-- A text without separators in front starts with its first run. -/
theorem exists_of_splitRuns_eq_cons {cs run : List Char} {runs : List (List Char)}
    (hfront : ∀ c ∈ cs.head?, isSeparator c = false)
    (h : splitRuns isSeparator cs = run :: runs) :
    ∃ rest, cs = run ++ rest ∧ run ≠ [] ∧ (∀ d ∈ rest.head?, isSeparator d = true) ∧
      splitRuns isSeparator rest = runs := by
  have hrun : ∀ c ∈ cs.takeWhile fun c => !isSeparator c, isSeparator c = false := by
    intro c hc
    simpa using List.mem_takeWhile_imp hc
  have hne : (cs.takeWhile fun c => !isSeparator c) ≠ [] := by
    cases cs with
    | nil => cases h
    | cons c rest => simp [hfront c rfl]
  have hrest : ∀ d ∈ (cs.dropWhile fun c => !isSeparator c).head?, isSeparator d = true := by
    intro d hd
    simpa [Option.mem_def.mp hd] using List.head?_dropWhile_not (fun c => !isSeparator c) cs
  have hcut := splitRuns_append hne hrun hrest
  rw [List.takeWhile_append_dropWhile, h] at hcut
  obtain ⟨rfl, rfl⟩ := List.cons.inj hcut
  exact ⟨_, List.takeWhile_append_dropWhile.symm, hne, hrest, rfl⟩

/-- The words of a text that starts with one. -/
theorem words_append {word : String} (hne : word ≠ "")
    (hword : ∀ c ∈ word.toList, isBlankChar c = false) (rest : String) :
    words (word ++ " " ++ rest) = word :: words rest := by
  have hblank : ∀ d ∈ (' ' :: rest.toList).head?, isBlankChar d = true := by simp [isBlankChar]
  have hchars : (word ++ " " ++ rest).toList = word.toList ++ ' ' :: rest.toList := by simp
  rw [words, hchars, splitRuns_append (by simpa using hne) hword hblank,
    splitRuns_cons_of_separator (by decide), List.map_cons, String.ofList_toList]
  rfl

/-- A text without blanks is one word. -/
theorem words_eq_singleton {word : String} (hne : word ≠ "")
    (hword : ∀ c ∈ word.toList, isBlankChar c = false) : words word = [word] := by
  have hruns : splitRuns isBlankChar (word.toList ++ []) = word.toList :: [] :=
    splitRuns_append (by simpa using hne) hword (by simp)
  rw [List.append_nil] at hruns
  simp [words, hruns]

/-- A word holds no blanks. -/
theorem of_mem_words {text word : String} (h : word ∈ words text) :
    ∀ c ∈ word.toList, isBlankChar c = false := by
  obtain ⟨run, hrun, rfl⟩ := List.mem_map.mp h
  rw [String.toList_ofList]
  exact of_mem_splitRuns hrun

end TaskEngine.Text
