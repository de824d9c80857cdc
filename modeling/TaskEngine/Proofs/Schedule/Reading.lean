import Mathlib.Data.List.DropRight
import Mathlib.Data.List.TakeWhile
import Mathlib.Data.Option.Basic
import TaskEngine.Schedule.Basic

/-!
# Fields read in front of blanks

A reader of schedules is local: it takes characters of fields only, it starts and stops at no sign,
and what it makes of a text without blanks is the same in front of blanks, as long as no sign follows
them. Numbers, names and stars are read so, and so is everything that is put together from local
readers. A text that is read as one whole field is therefore read as the same field in front of the
next one.
-/

namespace TaskEngine.Schedule

open Text (isPlainBlank skipBlanks)

/-! ## Characters of fields -/

/-- The signs between the parts of a field. -/
def isSign (c : Char) : Bool := c == ',' || c == '-' || c == '/'

/-- The characters that readers take. -/
def isFieldChar (c : Char) : Bool :=
  c.isDigit || c.isAlpha || isSign c || c == '*' || c == '?' || isPlainBlank c

/-- A reader has taken all up to a rest: some characters of fields, the last of them no sign. -/
def Takes (cs rest : List Char) : Prop :=
  ∃ front last, cs = front ++ last :: rest ∧ (∀ c ∈ front, isFieldChar c = true) ∧
    isFieldChar last = true ∧ isSign last = false

/-- A text without blanks that does not end in a sign. -/
structure IsWord (cs : List Char) : Prop where
  plain : ∀ c ∈ cs, isPlainBlank c = false
  closed : ∀ c ∈ cs.getLast?, isSign c = false

/-- A text that ends what stands in front of it: it starts with blanks, and no sign follows them. -/
structure IsFence (tail : List Char) : Prop where
  blank : ∀ c ∈ tail.head?, isPlainBlank c = true
  unsigned : ∀ c ∈ (skipBlanks tail).head?, isSign c = false

theorem isPlainBlank_iff {c : Char} :
    isPlainBlank c = true ↔ c = ' ' ∨ c = '\t' ∨ c = '\n' ∨ c = '\r' := by
  simp only [isPlainBlank, Bool.or_eq_true, beq_iff_eq, or_assoc]

theorem isFieldChar_of_isPlainBlank {c : Char} (h : isPlainBlank c = true) :
    isFieldChar c = true ∧ isSign c = false := by
  rcases isPlainBlank_iff.mp h with rfl | rfl | rfl | rfl <;> decide

theorem isPlainBlank_of_isSign {c : Char} (h : isSign c = true) : isPlainBlank c = false := by
  by_contra hblank
  rw [(isFieldChar_of_isPlainBlank (eq_true_of_ne_false hblank)).2] at h
  cases h

theorem isSign_eq_false_of_le {c : Char} (h : '0' ≤ c) : isSign c = false := by
  simp only [isSign, Bool.or_eq_false_iff, beq_eq_false_iff_ne]
  refine ⟨⟨?_, ?_⟩, ?_⟩ <;> rintro rfl <;> exact absurd h (by decide)

theorem isFieldChar_of_isDigit {c : Char} (h : c.isDigit = true) :
    isFieldChar c = true ∧ isSign c = false := by
  refine ⟨by simp [isFieldChar, h], ?_⟩
  simp only [Char.isDigit, Bool.and_eq_true, decide_eq_true_eq] at h
  exact isSign_eq_false_of_le h.1

/-- The code points of ASCII letters. -/
theorem isAlpha_iff {c : Char} :
    c.isAlpha = true ↔ 65 ≤ c.toNat ∧ c.toNat ≤ 90 ∨ 97 ≤ c.toNat ∧ c.toNat ≤ 122 := by
  change (decide (c.val ≥ 65 ∧ c.val ≤ 90) || (decide (c.val ≥ 97) && decide (c.val ≤ 122))) =
    true ↔ _
  simp only [ge_iff_le, Bool.or_eq_true, Bool.and_eq_true, decide_eq_true_eq,
    UInt32.le_iff_toNat_le, Char.toNat_val, UInt32.reduceToNat]

theorem isFieldChar_of_isAlpha {c : Char} (h : c.isAlpha = true) :
    isFieldChar c = true ∧ isSign c = false := by
  refine ⟨by simp [isFieldChar, h], isSign_eq_false_of_le ?_⟩
  rw [Char.le_def, UInt32.le_iff_toNat_le]
  change 48 ≤ c.toNat
  rcases isAlpha_iff.mp h with hupper | hlower <;> omega

/-! ## What is taken -/

/-- Characters of fields without signs are taken. -/
theorem takes_append {front : List Char} (hne : front ≠ [])
    (h : ∀ c ∈ front, isFieldChar c = true ∧ isSign c = false) (rest : List Char) :
    Takes (front ++ rest) rest := by
  refine ⟨front.dropLast, front.getLast hne, ?_, ?_, ?_⟩
  · conv_lhs => rw [← List.dropLast_concat_getLast hne, List.append_assoc]
    rfl
  · exact fun c hc => (h c (List.dropLast_subset _ hc)).1
  · exact h _ (List.getLast_mem hne)

/-- One reader after the other, with characters of fields between them. -/
theorem Takes.append {cs more rest : List Char} (between : List Char)
    (h : Takes cs (between ++ more)) (hbetween : ∀ c ∈ between, isFieldChar c = true)
    (hmore : Takes more rest) : Takes cs rest := by
  obtain ⟨front, last, rfl, hfront, hlast, -⟩ := h
  obtain ⟨front', last', rfl, hfront', hlast'⟩ := hmore
  refine ⟨front ++ last :: (between ++ front'), last', by simp, ?_, hlast'⟩
  intro c hc
  simp only [List.mem_append, List.mem_cons] at hc
  rcases hc with hc | rfl | hc | hc
  · exact hfront c hc
  · exact hlast
  · exact hbetween c hc
  · exact hfront' c hc

/-- One reader right after the other. -/
theorem Takes.trans {cs more rest : List Char} (h : Takes cs more) (hmore : Takes more rest) :
    Takes cs rest :=
  Takes.append [] h (by simp) hmore

/-- Blanks behind what is taken may be taken as well. -/
theorem Takes.skipBlanks {cs rest : List Char} (h : Takes cs rest) : Takes cs (skipBlanks rest) := by
  have hblanks : ∀ c ∈ rest.takeWhile isPlainBlank, isFieldChar c = true ∧ isSign c = false :=
    fun c hc => isFieldChar_of_isPlainBlank (List.mem_takeWhile_imp hc)
  by_cases hne : rest.takeWhile isPlainBlank = []
  · have hself : Text.skipBlanks rest = rest := by
      conv_rhs => rw [← List.takeWhile_append_dropWhile (p := isPlainBlank) (l := rest), hne]
      rfl
    rwa [hself]
  · have hrest : Takes rest (Text.skipBlanks rest) := by
      have htaken := takes_append hne hblanks (Text.skipBlanks rest)
      rwa [Text.skipBlanks, List.takeWhile_append_dropWhile] at htaken
    exact h.trans hrest

/-- Blanks in front of what is taken may be taken as well. -/
theorem Takes.of_skipBlanks {cs rest : List Char} (h : Takes (Text.skipBlanks cs) rest) :
    Takes cs rest := by
  obtain ⟨front, last, hcs, hfront, hlast⟩ := h
  refine ⟨cs.takeWhile isPlainBlank ++ front, last, ?_, ?_, hlast⟩
  · rw [List.append_assoc, ← hcs]
    exact List.takeWhile_append_dropWhile.symm
  · intro c hc
    rcases List.mem_append.mp hc with hc | hc
    · exact (isFieldChar_of_isPlainBlank (List.mem_takeWhile_imp hc)).1
    · exact hfront c hc

theorem Takes.length_lt {cs rest : List Char} (h : Takes cs rest) : rest.length < cs.length := by
  obtain ⟨front, last, rfl, -⟩ := h
  simp only [List.length_append, List.length_cons]
  omega

/-- All characters of a text that is taken as a whole are characters of fields. -/
theorem Takes.isFieldChar {cs : List Char} (h : Takes cs []) : ∀ c ∈ cs, isFieldChar c = true := by
  obtain ⟨front, last, rfl, hfront, hlast, -⟩ := h
  intro c hc
  rcases List.mem_append.mp hc with hc | hc
  · exact hfront c hc
  · rw [List.mem_singleton.mp hc]
    exact hlast

/-- A text without blanks that is taken as a whole is a word. -/
theorem Takes.isWord {cs : List Char} (h : Takes cs [])
    (hplain : ∀ c ∈ cs, isPlainBlank c = false) : IsWord cs := by
  obtain ⟨front, last, rfl, -, -, hlast⟩ := h
  refine ⟨hplain, fun c hc => ?_⟩
  rw [List.getLast?_concat, Option.mem_some_iff] at hc
  exact hc ▸ hlast

/-- What is left of a word is one. -/
theorem Takes.isWord_rest {cs rest : List Char} (h : Takes cs rest) (hword : IsWord cs) :
    IsWord rest := by
  obtain ⟨front, last, rfl, -⟩ := h
  refine ⟨fun c hc => hword.plain c (by simp [hc]), fun c hc => hword.closed c ?_⟩
  rw [List.append_cons, List.getLast?_append, Option.mem_def.mp hc]
  rfl

/-! ## Marks -/

theorem readMark?_eq_some {mark : Char} {cs rest : List Char} :
    readMark? mark cs = some rest ↔ cs = mark :: rest := by
  cases cs with
  | nil => simp [readMark?]
  | cons c cs => simp [readMark?]

/-- A word goes on behind a sign. -/
theorem IsWord.of_cons {mark : Char} {cs : List Char} (h : IsWord (mark :: cs))
    (hmark : isSign mark = true) : IsWord cs ∧ cs ≠ [] := by
  have hne : cs ≠ [] := by
    rintro rfl
    have hclosed := h.closed mark rfl
    rw [hmark] at hclosed
    cases hclosed
  refine ⟨⟨fun c hc => h.plain c (List.mem_cons_of_mem _ hc), fun c hc => h.closed c ?_⟩, hne⟩
  rw [List.getLast?_cons, Option.mem_def.mp hc]
  rfl

/-- What is left of a text in front of a tail: the same, followed by the tail, of which blanks may be
left out if nothing else is left. -/
def Follows (tail rest rest' : List Char) : Prop :=
  rest' = rest ++ tail ∨ rest = [] ∧ rest' = skipBlanks tail

/-- If nothing but blanks is left, nothing but blanks is left in front of the tail. -/
theorem Follows.skipBlanks_eq {tail rest rest' : List Char} (h : Follows tail rest rest')
    (hrest : skipBlanks rest = []) : skipBlanks rest' = skipBlanks tail := by
  rcases h with rfl | ⟨-, rfl⟩
  · rw [skipBlanks, List.dropWhile_append, ← skipBlanks, hrest]
    rfl
  · exact List.dropWhile_idempotent isPlainBlank tail

/-- A fence is no sign, with or without its blanks. -/
theorem IsFence.readMark?_eq_none {tail : List Char} (h : IsFence tail) {mark : Char}
    (hmark : isSign mark = true) :
    readMark? mark tail = none ∧ readMark? mark (skipBlanks tail) = none := by
  constructor
  · refine Option.eq_none_iff_forall_ne_some.mpr fun rest hrest => ?_
    have hblank := h.blank mark (by rw [readMark?_eq_some.mp hrest]; rfl)
    have hplain := (isFieldChar_of_isPlainBlank hblank).2
    rw [hmark] at hplain
    cases hplain
  · refine Option.eq_none_iff_forall_ne_some.mpr fun rest hrest => ?_
    have hplain := h.unsigned mark (by rw [readMark?_eq_some.mp hrest]; rfl)
    rw [hmark] at hplain
    cases hplain

/-- In front of a fence, a sign is found where it is found without the fence. -/
theorem Follows.readMark? {tail rest rest' : List Char} (h : Follows tail rest rest')
    (hfence : IsFence tail) {mark : Char} (hmark : isSign mark = true) :
    readMark? mark rest' = (readMark? mark rest).map (· ++ tail) := by
  rcases h with rfl | ⟨rfl, rfl⟩
  · cases rest with
    | nil => exact (hfence.readMark?_eq_none hmark).1
    | cons c rest =>
      rw [List.cons_append, Schedule.readMark?, Schedule.readMark?]
      split <;> rfl
  · exact (hfence.readMark?_eq_none hmark).2

/-! ## Local readers -/

/-- The same is read, and the tail follows what is left. -/
def Continues {α : Type} (tail : List Char) (x y : α × List Char) : Prop :=
  y.1 = x.1 ∧ Follows tail x.2 y.2

/-- A reader that looks at nothing but what it takes, and at where that ends. -/
structure IsLocal {α : Type} (read : List Char → Option (α × List Char)) : Prop where
  /-- What it takes are characters of fields, the last of them no sign. -/
  takes : ∀ {cs a rest}, read cs = some (a, rest) → Takes cs rest
  /-- What it takes does not start with a sign. -/
  unsigned : ∀ {c cs}, isSign c = true → read (c :: cs) = none
  /-- It reads the same in front of a fence. -/
  fenced : ∀ {cs tail}, IsWord cs → cs ≠ [] → IsFence tail →
    Option.Rel (Continues tail) (read cs) (read (cs ++ tail))

variable {α β γ : Type}

/-- Nothing is read in front of a fence if nothing is read without it. -/
theorem IsLocal.eq_none {read : List Char → Option (α × List Char)} (h : IsLocal read)
    {cs tail : List Char} (hword : IsWord cs) (hne : cs ≠ []) (hfence : IsFence tail)
    (hread : read cs = none) : read (cs ++ tail) = none := by
  have hrel := h.fenced hword hne hfence
  rw [hread] at hrel
  generalize read (cs ++ tail) = y at hrel ⊢
  cases hrel
  rfl

/-- What is read without a fence is read in front of it. -/
theorem IsLocal.exists_follows {read : List Char → Option (α × List Char)} (h : IsLocal read)
    {cs tail rest : List Char} {a : α} (hword : IsWord cs) (hne : cs ≠ []) (hfence : IsFence tail)
    (hread : read cs = some (a, rest)) :
    ∃ rest', read (cs ++ tail) = some (a, rest') ∧ Follows tail rest rest' := by
  have hrel := h.fenced hword hne hfence
  rw [hread] at hrel
  generalize read (cs ++ tail) = y at hrel ⊢
  cases hrel with
  | @some _ y hxy =>
  obtain ⟨b, rest'⟩ := y
  obtain ⟨rfl, hfollows⟩ := hxy
  exact ⟨rest', rfl, hfollows⟩

/-- What is made of what is read does not matter. -/
theorem IsLocal.map {read : List Char → Option (α × List Char)} (h : IsLocal read) (f : α → β) :
    IsLocal fun cs => (read cs).map fun x => (f x.1, x.2) where
  takes := by
    intro cs b rest hread
    obtain ⟨⟨a, more⟩, ha, hb⟩ := Option.map_eq_some_iff.mp hread
    cases hb
    exact h.takes ha
  unsigned := by
    intro c cs hc
    simp only [h.unsigned hc, Option.map_none]
  fenced := by
    intro cs tail hword hne hfence
    have hrel := h.fenced hword hne hfence
    generalize read cs = x at hrel ⊢
    generalize read (cs ++ tail) = y at hrel ⊢
    cases hrel with
    | none => exact .none
    | some hxy => exact .some ⟨congrArg f hxy.1, hxy.2⟩

/-- A reader and another one if it fails. -/
theorem IsLocal.orElse {first second : List Char → Option (α × List Char)} (hfirst : IsLocal first)
    (hsecond : IsLocal second) : IsLocal fun cs => first cs <|> second cs where
  takes := by
    intro cs a rest hread
    cases hleft : first cs with
    | none =>
      rw [hleft] at hread
      exact hsecond.takes hread
    | some x =>
      rw [hleft] at hread
      cases hread
      exact hfirst.takes hleft
  unsigned := by
    intro c cs hc
    simp only [hfirst.unsigned hc, hsecond.unsigned hc]
    rfl
  fenced := by
    intro cs tail hword hne hfence
    have hleft := hfirst.fenced hword hne hfence
    have hright := hsecond.fenced hword hne hfence
    generalize first cs = x at hleft ⊢
    generalize first (cs ++ tail) = y at hleft ⊢
    cases hleft with
    | none => exact hright
    | some hxy => exact .some hxy

/-- Read two things with a sign between them. -/
def readBoth (first : List Char → Option (α × List Char)) (mark : Char)
    (second : List Char → Option (β × List Char)) (join : α → β → γ) (cs : List Char) :
    Option (γ × List Char) := do
  let (a, rest) ← first cs
  let rest ← readMark? mark rest
  let (b, rest) ← second rest
  some (join a b, rest)

/-- Two local readers with a sign between them. -/
theorem IsLocal.both {first : List Char → Option (α × List Char)}
    {second : List Char → Option (β × List Char)} (hfirst : IsLocal first)
    (hsecond : IsLocal second) (mark : Char) (hmark : isSign mark = true) (join : α → β → γ) :
    IsLocal (readBoth first mark second join) where
  takes := by
    intro cs c rest hread
    obtain ⟨⟨a, more⟩, ha, hread⟩ := Option.bind_eq_some_iff.mp hread
    obtain ⟨behind, hbehind, hread⟩ := Option.bind_eq_some_iff.mp hread
    obtain ⟨⟨b, last⟩, hb, hread⟩ := Option.bind_eq_some_iff.mp hread
    cases hread
    obtain rfl := readMark?_eq_some.mp hbehind
    refine Takes.append [mark] (hfirst.takes ha) ?_ (hsecond.takes hb)
    simp [Schedule.isFieldChar, hmark]
  unsigned := by
    intro c cs hc
    rw [readBoth, hfirst.unsigned hc]
    rfl
  fenced := by
    intro cs tail hword hne hfence
    rw [readBoth, readBoth]
    cases hread : first cs with
    | none =>
      rw [hfirst.eq_none hword hne hfence hread]
      exact .none
    | some x =>
      obtain ⟨a, rest⟩ := x
      obtain ⟨rest', hread', hfollows⟩ := hfirst.exists_follows hword hne hfence hread
      simp only [Option.bind_eq_bind, Option.bind_some, hread', hfollows.readMark? hfence hmark]
      cases hmore : Schedule.readMark? mark rest with
      | none => exact .none
      | some more =>
        have hrest := (hfirst.takes hread).isWord_rest hword
        rw [readMark?_eq_some.mp hmore] at hrest
        obtain ⟨hmoreWord, hmoreNe⟩ := hrest.of_cons hmark
        have hright := hsecond.fenced hmoreWord hmoreNe hfence
        simp only [Option.map_some, Option.bind_some]
        generalize second more = u at hright ⊢
        generalize second (more ++ tail) = v at hright ⊢
        cases hright with
        | none => exact .none
        | some huv => exact .some ⟨congrArg (join a) huv.1, huv.2⟩

/-! ## Marks and runs -/

/-- A mark that is no sign is read locally. -/
theorem isLocal_readMark (mark : Char) (hmark : isFieldChar mark = true ∧ isSign mark = false)
    (a : α) : IsLocal fun cs => (readMark? mark cs).map fun rest => (a, rest) where
  takes := by
    intro cs b rest hread
    obtain ⟨more, hmore, hb⟩ := Option.map_eq_some_iff.mp hread
    cases hb
    rw [readMark?_eq_some.mp hmore]
    exact ⟨[], mark, rfl, by simp, hmark⟩
  unsigned := by
    intro c cs hc
    have hne : c ≠ mark := by
      rintro rfl
      rw [hmark.2] at hc
      cases hc
    simp only [readMark?, if_neg hne, Option.map_none]
  fenced := by
    intro cs tail hword hne hfence
    cases cs with
    | nil => exact absurd rfl hne
    | cons c cs =>
      simp only [List.cons_append, readMark?]
      split
      · exact .some ⟨rfl, .inl rfl⟩
      · exact .none

/-- Nothing is read locally. -/
theorem isLocal_none : IsLocal (α := α) fun _ => none where
  takes := by simp
  unsigned := by simp
  fenced := fun _ _ _ => .none

/-- Blanks are left out of no text that starts with something else. -/
theorem skipBlanks_append {cs : List Char} (hne : cs ≠ [])
    (hplain : ∀ c ∈ cs, isPlainBlank c = false) (tail : List Char) :
    skipBlanks (cs ++ tail) = cs ++ tail := by
  cases cs with
  | nil => exact absurd rfl hne
  | cons c cs => simp [skipBlanks, hplain c List.mem_cons_self]

theorem skipBlanks_eq_self {cs : List Char} (hplain : ∀ c ∈ cs, isPlainBlank c = false) :
    skipBlanks cs = cs := by
  cases cs with
  | nil => rfl
  | cons c cs => simp [skipBlanks, hplain c List.mem_cons_self]

/-- Behind a text without blanks, blanks may be left out. -/
theorem follows_skipBlanks {cs : List Char} (hplain : ∀ c ∈ cs, isPlainBlank c = false)
    (tail : List Char) : Follows tail (skipBlanks cs) (skipBlanks (cs ++ tail)) := by
  by_cases hne : cs = []
  · subst hne
    exact .inr ⟨rfl, rfl⟩
  · rw [skipBlanks_eq_self hplain, skipBlanks_append hne hplain]
    exact .inl rfl

/-- Read a run of characters with the blanks around it, and what it stands for. -/
def readRun? (isPart : Char → Bool) (value? : List Char → Option α) (cs : List Char) :
    Option (α × List Char) :=
  let run := (skipBlanks cs).takeWhile isPart
  if run = [] then none
  else (value? run).map fun a => (a, skipBlanks ((skipBlanks cs).dropWhile isPart))

/-- Runs are read locally. -/
theorem isLocal_readRun {isPart : Char → Bool}
    (hpart : ∀ c, isPart c = true → isFieldChar c = true ∧ isSign c = false)
    (hblank : ∀ c, isPlainBlank c = true → isPart c = false) (value? : List Char → Option α) :
    IsLocal (readRun? isPart value?) where
  takes := by
    intro cs a rest hread
    rw [readRun?] at hread
    split at hread
    · cases hread
    · rename_i hne
      obtain ⟨b, -, hb⟩ := Option.map_eq_some_iff.mp hread
      cases hb
      have hrun := takes_append hne (fun c hc => hpart c (List.mem_takeWhile_imp hc))
        ((skipBlanks cs).dropWhile isPart)
      rw [List.takeWhile_append_dropWhile] at hrun
      exact hrun.of_skipBlanks.skipBlanks
  unsigned := by
    intro c cs hc
    have hother : isPart c = false := by
      by_contra h
      rw [(hpart c (eq_true_of_ne_false h)).2] at hc
      cases hc
    simp [readRun?, skipBlanks, isPlainBlank_of_isSign hc, hother]
  fenced := by
    intro cs tail hword hne hfence
    -- the fence ends the run where the text itself ends it
    have hend : tail.takeWhile isPart = [] ∧ tail.dropWhile isPart = tail := by
      cases tail with
      | nil => exact ⟨rfl, rfl⟩
      | cons d tail =>
        have hd := hblank d (hfence.blank d rfl)
        simp [hd]
    have htake : (cs ++ tail).takeWhile isPart = cs.takeWhile isPart := by
      rw [List.takeWhile_append, hend.1]
      split
      · rename_i hall
        rw [List.append_nil, (List.takeWhile_prefix isPart).eq_of_length hall]
      · rfl
    have hdrop : (cs ++ tail).dropWhile isPart = cs.dropWhile isPart ++ tail := by
      rw [List.dropWhile_append, hend.2]
      split
      · rename_i hall
        rw [List.isEmpty_iff.mp hall, List.nil_append]
      · rfl
    rw [readRun?, readRun?, skipBlanks_append hne hword.plain, skipBlanks_eq_self hword.plain, htake,
      hdrop]
    split
    · exact .none
    · cases value? (cs.takeWhile isPart) with
      | none => exact .none
      | some a =>
        refine .some ⟨rfl, follows_skipBlanks (fun c hc => hword.plain c ?_) tail⟩
        exact (List.dropWhile_sublist isPart).subset hc

/-- The number that digits stand for. -/
def number? (digits : List Char) : Option Nat :=
  let n := Nat.ofDigitChars 10 digits 0
  if n ≤ maxNumber then some n else none

theorem readNumber?_eq : readNumber? = readRun? Char.isDigit number? := by
  funext cs
  simp only [readNumber?, readRun?, number?, List.isEmpty_iff]
  split
  · rfl
  · split <;> rfl

theorem readName?_eq : readName? = readRun? Char.isAlpha fun letters =>
    some (String.ofList letters) := by
  funext cs
  simp only [readName?, readRun?, List.isEmpty_iff]
  split <;> rfl

theorem isLocal_readNumber : IsLocal readNumber? := by
  rw [readNumber?_eq]
  refine isLocal_readRun (fun _ => isFieldChar_of_isDigit) (fun c hc => ?_) _
  rcases isPlainBlank_iff.mp hc with rfl | rfl | rfl | rfl <;> decide

theorem isLocal_readName : IsLocal readName? := by
  rw [readName?_eq]
  refine isLocal_readRun (fun _ => isFieldChar_of_isAlpha) (fun c hc => ?_) _
  rcases isPlainBlank_iff.mp hc with rfl | rfl | rfl | rfl <;> decide

/-! ## Terms and items -/

/-- A term is a mark, a range, a number or a range of names. -/
theorem readTerm?_eq (q : Bool) (cs : List Char) :
    readTerm? q cs =
      ((if q then (readMark? '?' cs).map fun rest => (Term.every, rest) else none) <|>
      ((readMark? '*' cs).map fun rest => (Term.every, rest)) <|>
      readBoth readNumber? '-' readNumber? Term.range cs <|>
      ((readNumber? cs).map fun x => (Term.number x.1, x.2)) <|>
      readBoth readName? '-' readName? Term.nameRange cs) :=
  rfl

/-- An item is a term with a step, a term, or a name. -/
theorem readItem?_eq (q : Bool) (cs : List Char) :
    readItem? q cs =
      (readBoth (readTerm? q) '/' readNumber? (fun term step => Item.mk term (some step)) cs <|>
      ((readTerm? q cs).map fun x => (Item.mk x.1 none, x.2)) <|>
      ((readName? cs).map fun x => (Item.mk (.name x.1) none, x.2))) :=
  rfl

theorem isLocal_readTerm (q : Bool) : IsLocal (readTerm? q) := by
  have hquestion : IsLocal fun cs =>
      if q then (readMark? '?' cs).map fun rest => (Term.every, rest) else none := by
    cases q with
    | false => exact isLocal_none
    | true => exact isLocal_readMark '?' (by decide) Term.every
  have hstar := isLocal_readMark '*' (by decide) Term.every
  have hrange := isLocal_readNumber.both isLocal_readNumber '-' (by decide) Term.range
  have hnames := isLocal_readName.both isLocal_readName '-' (by decide) Term.nameRange
  rw [funext (readTerm?_eq q)]
  exact hquestion.orElse (hstar.orElse (hrange.orElse
    ((isLocal_readNumber.map Term.number).orElse hnames)))

theorem isLocal_readItem (q : Bool) : IsLocal (readItem? q) := by
  have hstepped := (isLocal_readTerm q).both isLocal_readNumber '/' (by decide)
    (fun term step => Item.mk term (some step))
  have hterm := (isLocal_readTerm q).map fun term => Item.mk term none
  have hname := isLocal_readName.map fun text => Item.mk (.name text) none
  rw [funext (readItem?_eq q)]
  exact hstepped.orElse (hterm.orElse hname)

/-! ## Lists of items -/

/-- More items take something or leave all as it is. -/
theorem readMoreItems_takes (q : Bool) (fuel : Nat) (cs : List Char) :
    (readMoreItems q fuel cs).2 = cs ∨ Takes cs (readMoreItems q fuel cs).2 := by
  induction fuel generalizing cs with
  | zero => exact .inl rfl
  | succ fuel ih =>
    rw [readMoreItems]
    cases hmark : readMark? ',' cs with
    | none => exact .inl rfl
    | some rest =>
      simp only
      cases hitem : readItem? q rest with
      | none => exact .inl rfl
      | some x =>
        obtain ⟨item, more⟩ := x
        right
        have htaken : Takes cs more := by
          obtain ⟨front, last, rfl, hfront, hlast⟩ := (isLocal_readItem q).takes hitem
          rw [readMark?_eq_some.mp hmark]
          refine ⟨',' :: front, last, rfl, ?_, hlast⟩
          exact List.forall_mem_cons.mpr ⟨by decide, hfront⟩
        rcases ih more with hsame | hmore
        · simpa only [hsame] using htaken
        · exact htaken.trans hmore

/-- More items are read the same in front of a fence, as long as the fuel lasts. -/
theorem readMoreItems_continues (q : Bool) {tail : List Char} (hfence : IsFence tail)
    {fuel fuel' : Nat} {cs cs' : List Char} (hword : IsWord cs) (hfollows : Follows tail cs cs')
    (hfuel : cs.length ≤ fuel) (hfuel' : cs'.length ≤ fuel') :
    Continues tail (readMoreItems q fuel cs) (readMoreItems q fuel' cs') := by
  -- a comma is taken in both texts or in none, and the fuel lasts for all that is left
  induction fuel generalizing fuel' cs cs' with
  | zero =>
    obtain rfl := List.length_eq_zero_iff.mp (Nat.le_zero.mp hfuel)
    have hmark : readMark? ',' cs' = none := hfollows.readMark? hfence (by decide)
    cases fuel' with
    | zero => exact ⟨rfl, hfollows⟩
    | succ fuel' =>
      rw [readMoreItems, readMoreItems, hmark]
      exact ⟨rfl, hfollows⟩
  | succ fuel ih =>
    have hmark : readMark? ',' cs' = (readMark? ',' cs).map (· ++ tail) :=
      hfollows.readMark? hfence (by decide)
    cases hcomma : readMark? ',' cs with
    | none =>
      rw [hcomma, Option.map_none] at hmark
      have hleft : readMoreItems q (fuel + 1) cs = ([], cs) := by rw [readMoreItems, hcomma]
      have hright : readMoreItems q fuel' cs' = ([], cs') := by
        cases fuel' with
        | zero => rfl
        | succ fuel' => rw [readMoreItems, hmark]
      rw [hleft, hright]
      exact ⟨rfl, hfollows⟩
    | some rest =>
      rw [hcomma, Option.map_some] at hmark
      have hcs := readMark?_eq_some.mp hcomma
      have hcs' := readMark?_eq_some.mp hmark
      obtain ⟨hrest, hne⟩ := (hcs ▸ hword).of_cons (by decide)
      rw [hcs, List.length_cons] at hfuel
      rw [hcs', List.length_cons] at hfuel'
      obtain ⟨fuel', rfl⟩ := Nat.exists_eq_succ_of_ne_zero (Nat.ne_of_gt (Nat.zero_lt_of_lt hfuel'))
      rw [readMoreItems, readMoreItems, hcomma, hmark]
      simp only
      cases hread : readItem? q rest with
      | none =>
        rw [(isLocal_readItem q).eq_none hrest hne hfence hread]
        exact ⟨rfl, hfollows⟩
      | some x =>
        obtain ⟨item, more⟩ := x
        obtain ⟨more', hread', hmore⟩ :=
          (isLocal_readItem q).exists_follows hrest hne hfence hread
        have htaken := (isLocal_readItem q).takes hread
        have hlength := htaken.length_lt
        have hlength' := ((isLocal_readItem q).takes hread').length_lt
        have hlater : Continues tail (readMoreItems q fuel more) (readMoreItems q fuel' more') :=
          ih (htaken.isWord_rest hrest) hmore (by omega) (by omega)
        rw [hread']
        exact ⟨congrArg (List.cons item) hlater.1, hlater.2⟩

/-- The items of a field take characters of fields. -/
theorem readItems?_takes {q : Bool} {cs rest : List Char} {items : List Item}
    (h : readItems? q cs = some (items, rest)) : Takes cs rest := by
  rw [readItems?] at h
  split at h
  · cases h
  · rename_i item more hread
    cases h
    have htaken := ((isLocal_readItem q).takes hread).of_skipBlanks
    rcases readMoreItems_takes q more.length more with hsame | hmore
    · rw [hsame]
      exact htaken.skipBlanks
    · exact (htaken.trans hmore).skipBlanks

/-- No field starts with a sign. -/
theorem readItems?_of_isSign {q : Bool} {c : Char} (hc : isSign c = true) (cs : List Char) :
    readItems? q (c :: cs) = none := by
  have hself : skipBlanks (c :: cs) = c :: cs :=
    List.dropWhile_cons_of_neg (by simp [isPlainBlank_of_isSign hc])
  rw [readItems?, hself, (isLocal_readItem q).unsigned hc]

/-- A whole field is read as the same field in front of a fence. -/
theorem readItems?_append {q : Bool} {cs tail : List Char} {items : List Item}
    (hplain : ∀ c ∈ cs, isPlainBlank c = false) (h : readItems? q cs = some (items, []))
    (hfence : IsFence tail) : readItems? q (cs ++ tail) = some (items, skipBlanks tail) := by
  have htaken := readItems?_takes h
  have hword := htaken.isWord hplain
  have hne : cs ≠ [] := List.ne_nil_of_length_pos htaken.length_lt
  rw [readItems?, skipBlanks_eq_self hplain] at h
  rw [readItems?, skipBlanks_append hne hplain]
  split at h
  · cases h
  · rename_i item more hread
    obtain ⟨more', hread', hmore⟩ := (isLocal_readItem q).exists_follows hword hne hfence hread
    have hlater := readMoreItems_continues q hfence
      (((isLocal_readItem q).takes hread).isWord_rest hword) hmore le_rfl le_rfl
    simp only [Option.some.injEq, Prod.mk.injEq] at h
    rw [hread', ← h.1, ← hlater.2.skipBlanks_eq h.2, ← hlater.1]

end TaskEngine.Schedule
