import Mathlib.Data.List.TakeWhile
import TaskEngine.Json.Reader
import TaskEngine.Proofs.Number.Rounding

/-!
# Number literals

A literal is read back from its text up to what cannot go on with it. Its double is there as long as
its value stays below the third largest double: the digits that fit 64 bits and the power of ten are
each rounded once and their product once more, and that adds up to less than two steps.
-/

namespace TaskEngine

open Number

namespace JsonNumber.Literal

/-! ## Texts of literals -/

/-- Whether a literal can be written. -/
structure WellFormed (l : Literal) : Prop where
  whole : ∀ c ∈ l.whole, c.isDigit = true
  /-- There is a digit, and a zero stands in front of the point only alone. -/
  nonempty : l.whole ≠ []
  noLeadingZero : l.whole.head? = some '0' → l.whole.length = 1
  fraction : ∀ c ∈ l.fraction, c.isDigit = true
  exponent : ∀ minus digits, l.exponent = some (minus, digits) →
    digits ≠ [] ∧ ∀ c ∈ digits, c.isDigit = true

/-- The text of the sign. -/
def signText (negative : Bool) : List Char := if negative then ['-'] else []

/-- The text of the fraction with its point. -/
def fractionText : List Char → List Char
  | [] => []
  | digits => '.' :: digits

/-- The text of the exponent with its letter. -/
def exponentText : Option (Bool × List Char) → List Char
  | none => []
  | some (minus, digits) => 'e' :: signText minus ++ digits

/-- The text of a literal. -/
def text (l : Literal) : List Char :=
  signText l.negative ++ (l.whole ++ (fractionText l.fraction ++ exponentText l.exponent))

end JsonNumber.Literal

namespace Json

open JsonNumber

/-- Whether nothing in a text goes on with a number that ends before it. -/
def EndsNumber (rest : List Char) : Prop :=
  ∀ c ∈ rest.head?, c.isDigit = false ∧ c ≠ '.' ∧ c ≠ 'e' ∧ c ≠ 'E'

/-- A natural number is written in digits. -/
theorem isDigit_of_mem_toDigits {n : Nat} {c : Char} (h : c ∈ Nat.toDigits 10 n) :
    c.isDigit = true :=
  Nat.isDigit_of_mem_toDigits (by decide) (by decide) h

/-- Digits are read up to the first other character. -/
theorem spanDigits_append {digits rest : List Char} (hdigits : ∀ c ∈ digits, c.isDigit = true)
    (hrest : ∀ c ∈ rest.head?, c.isDigit = false) :
    spanDigits (digits ++ rest) = (digits, rest) := by
  have hnone : rest.takeWhile Char.isDigit = [] ∧ rest.dropWhile Char.isDigit = rest := by
    cases rest with
    | nil => exact ⟨rfl, rfl⟩
    | cons c rest =>
      have hc := hrest c rfl
      simp [hc]
  rw [spanDigits, List.takeWhile_append_of_pos hdigits, List.dropWhile_append_of_pos hdigits,
    hnone.1, hnone.2, List.append_nil]

/-- The sign is read back in front of a digit. -/
theorem spanSign_text (negative : Bool) {cs : List Char} (h : cs.head? ≠ some '-') :
    spanSign (Literal.signText negative ++ cs) = (negative, cs) := by
  cases negative with
  | true => rfl
  | false =>
    cases cs with
    | nil => rfl
    | cons c cs =>
      have hc : c ≠ '-' := fun he => h (congrArg some he)
      simp [Literal.signText, spanSign, hc]

/-- The fraction is read back. -/
theorem readFraction_text {fraction rest : List Char}
    (hdigits : ∀ c ∈ fraction, c.isDigit = true)
    (hrest : ∀ c ∈ rest.head?, c.isDigit = false ∧ c ≠ '.') :
    readFraction (Literal.fractionText fraction ++ rest) = some (fraction, rest) := by
  cases fraction with
  | nil =>
    cases rest with
    | nil => rfl
    | cons c rest =>
      have hc := (hrest c rfl).2
      simp only [Literal.fractionText, List.nil_append]
      rw [readFraction]
      intro rest' h
      exact hc (List.cons.inj h).1
  | cons d digits =>
    have hspan := spanDigits_append hdigits fun c hc => (hrest c hc).1
    simp only [Literal.fractionText, List.cons_append] at hspan ⊢
    rw [readFraction, hspan]
    rfl

/-- The exponent is read back. -/
theorem readExponent_text {exponent : Option (Bool × List Char)} {rest : List Char}
    (hdigits : ∀ minus digits, exponent = some (minus, digits) →
      digits ≠ [] ∧ ∀ c ∈ digits, c.isDigit = true)
    (hrest : EndsNumber rest) :
    readExponent (Literal.exponentText exponent ++ rest) = some (exponent, rest) := by
  match exponent with
  | none =>
    cases rest with
    | nil => rfl
    | cons c rest =>
      obtain ⟨-, -, hlower, hupper⟩ := hrest c rfl
      simp [Literal.exponentText, readExponent, hlower, hupper]
  | some (minus, digits) =>
    obtain ⟨hne, hall⟩ := hdigits minus digits rfl
    have hspan := spanDigits_append hall fun c hc => (hrest c hc).1
    have hempty : digits.isEmpty = false := by simpa using hne
    have hread (minus : Bool) : readExponentDigits minus (digits ++ rest) =
        some (some (minus, digits), rest) := by
      simp only [readExponentDigits, hspan, hempty]
      rfl
    cases minus with
    | true =>
      rw [← hread true]
      rfl
    | false =>
      obtain ⟨d, digits, rfl⟩ := List.exists_cons_of_ne_nil hne
      have hd := hall d List.mem_cons_self
      rw [← hread false]
      simp only [Literal.exponentText, Literal.signText, readExponent, List.cons_append,
        List.nil_append, beq_self_eq_true, Bool.true_or, if_true, Bool.false_eq_true, if_false]
      split
      · rename_i h
        cases h
        exact absurd hd (by decide)
      · rename_i h
        cases h
        exact absurd hd (by decide)
      · rfl

/-- What follows the digits before the point is no digit. -/
theorem head?_fraction {l : Literal} {rest : List Char} (hrest : EndsNumber rest) :
    ∀ c ∈ (Literal.fractionText l.fraction ++ (Literal.exponentText l.exponent ++ rest)).head?,
      c.isDigit = false := by
  intro c hc
  cases hfraction : l.fraction with
  | cons d digits =>
    rw [hfraction] at hc
    cases hc
    rfl
  | nil =>
    rw [hfraction] at hc
    cases hexponent : l.exponent with
    | some exponent =>
      rw [hexponent] at hc
      cases hc
      rfl
    | none =>
      rw [hexponent] at hc
      exact (hrest c hc).1

/-- A literal is read back from its text. -/
theorem readNumber_text {l : Literal} (h : l.WellFormed) {rest : List Char}
    (hrest : EndsNumber rest) : readNumber (l.text ++ rest) = l.value?.map (·, rest) := by
  have hexponent := readExponent_text h.exponent hrest
  have hafter : ∀ c ∈ (Literal.exponentText l.exponent ++ rest).head?,
      c.isDigit = false ∧ c ≠ '.' := by
    intro c hc
    cases hexponent : l.exponent with
    | some exponent =>
      rw [hexponent] at hc
      cases hc
      exact ⟨rfl, by decide⟩
    | none =>
      rw [hexponent] at hc
      exact ⟨(hrest c hc).1, (hrest c hc).2.1⟩
  have hfraction := readFraction_text h.fraction hafter
  have hwhole := spanDigits_append h.whole (head?_fraction (l := l) hrest)
  have hlead : (l.whole.isEmpty || (l.whole.head? == some '0' && decide (1 < l.whole.length))) =
      false := by
    have hempty : l.whole.isEmpty = false := by simpa using h.nonempty
    rw [hempty, Bool.false_or, Bool.and_eq_false_iff, beq_eq_false_iff_ne, decide_eq_false_iff_not]
    by_cases hzero : l.whole.head? = some '0'
    · exact .inr (by rw [h.noLeadingZero hzero]; decide)
    · exact .inl hzero
  have hnext : (l.whole ++ (Literal.fractionText l.fraction ++
      (Literal.exponentText l.exponent ++ rest))).head? ≠ some '-' := by
    obtain ⟨d, digits, hd⟩ := List.exists_cons_of_ne_nil h.nonempty
    have hdigit := h.whole d (hd ▸ List.mem_cons_self)
    rw [hd]
    intro he
    cases he
    exact absurd hdigit (by decide)
  have hsign := spanSign_text l.negative hnext
  rw [readNumber, Literal.text, List.append_assoc, List.append_assoc, List.append_assoc, hsign]
  simp only [hwhole, hlead, hfraction, hexponent, Option.bind_eq_bind, Option.bind_some]
  cases l.value? <;> rfl

end Json

namespace JsonNumber

/-! ## Digits that fit -/

theorem pow_mul_le_ofDigitChars (n : Nat) (digits : List Char) :
    10 ^ digits.length * n ≤ Nat.ofDigitChars 10 digits n := by
  rw [Nat.ofDigitChars_eq_ofDigitChars_zero]
  exact Nat.le_add_right _ _

/-- Digits are worth less than the power of ten after them. -/
theorem ofDigitChars_lt {digits : List Char} (h : ∀ c ∈ digits, c.isDigit = true) :
    Nat.ofDigitChars 10 digits 0 < 10 ^ digits.length := by
  induction digits with
  | nil => exact Nat.one_pos
  | cons c digits ih =>
    have hc := h c List.mem_cons_self
    have hdigits := ih fun d hd => h d (List.mem_cons_of_mem _ hd)
    have hvalue : c.toNat - '0'.toNat ≤ 9 := by
      simp only [Char.isDigit, Bool.and_eq_true, decide_eq_true_eq] at hc
      have : c.toNat ≤ '9'.toNat := hc.2
      have : '9'.toNat = 57 := rfl
      have : '0'.toNat = 48 := rfl
      omega
    rw [Nat.ofDigitChars_cons, Nat.ofDigitChars_eq_ofDigitChars_zero, List.length_cons, pow_succ]
    calc 10 ^ digits.length * (10 * 0 + (c.toNat - '0'.toNat)) + Nat.ofDigitChars 10 digits 0
        < 10 ^ digits.length * 9 + 10 ^ digits.length := by
          refine Nat.add_lt_add_of_le_of_lt (Nat.mul_le_mul_left _ (by omega)) hdigits
      _ = 10 ^ digits.length * 10 := by ring

/-- The significand is made of leading digits, and fits. -/
theorem takeSignificand_spec (digits : List Char) {n : Nat} (hn : n ≤ maxUnsigned) :
    ∃ taken, digits = taken ++ (takeSignificand n digits).2 ∧
      (takeSignificand n digits).1 = Nat.ofDigitChars 10 taken n ∧
      (takeSignificand n digits).1 ≤ maxUnsigned := by
  induction digits generalizing n with
  | nil => exact ⟨[], rfl, by simp [takeSignificand], hn⟩
  | cons c digits ih =>
    rw [takeSignificand]
    split
    · rename_i hnext
      obtain ⟨taken, happend, hvalue, hfits⟩ := ih hnext
      refine ⟨c :: taken, by rw [List.cons_append, ← happend], ?_, hfits⟩
      rw [hvalue, Nat.ofDigitChars_cons, Nat.mul_comm, digitValue]
    · exact ⟨[], rfl, by simp, hn⟩

/-- Digits that fit are all taken. -/
theorem takeSignificand_of_le {digits : List Char} {n : Nat}
    (h : Nat.ofDigitChars 10 digits n ≤ maxUnsigned) :
    takeSignificand n digits = (Nat.ofDigitChars 10 digits n, []) := by
  induction digits generalizing n with
  | nil => simp [takeSignificand]
  | cons c digits ih =>
    rw [Nat.ofDigitChars_cons] at h ⊢
    have hnext : n * 10 + digitValue c = 10 * n + (c.toNat - '0'.toNat) := by
      rw [Nat.mul_comm, digitValue]
    have hfits : 10 * n + (c.toNat - '0'.toNat) ≤ maxUnsigned := by
      refine le_trans ?_ ((pow_mul_le_ofDigitChars _ digits).trans h)
      exact Nat.le_mul_of_pos_left _ (by positivity)
    rw [takeSignificand, hnext, if_pos hfits, ih h]

/-! ## Scaling -/

open Binary64

/-- A number below the third largest double is at most `10 ^ 308` and what ten times is below it. -/
theorem exponent_le {n : Nat} (hn : 0 < n) {e : Int} (h : (n : ℚ) * 10 ^ e < thirdLargest) :
    e ≤ 308 := by
  by_contra hlarge
  have hone : (1 : ℚ) ≤ n := by exact_mod_cast hn
  have hstep : (10 : ℚ) ^ (309 : Int) ≤ n * 10 ^ e :=
    calc (10 : ℚ) ^ (309 : Int) ≤ 10 ^ e := zpow_le_zpow_right₀ (by norm_num) (by omega)
      _ ≤ n * 10 ^ e := le_mul_of_one_le_left (by positivity) hone
  have hlimit : thirdLargest ≤ (10 : ℚ) ^ (309 : Int) := by
    have hnat : 9007199254740989 * 2 ^ 971 ≤ 10 ^ 309 := by decide +kernel
    have hcast : (9007199254740989 : ℚ) * 2 ^ 971 ≤ 10 ^ 309 := by exact_mod_cast hnat
    rw [thirdLargest]
    norm_num
    exact hcast
  exact absurd (hlimit.trans hstep) h.not_ge

/-- Two roundings of one part in `2 ^ 53` do not lead from the third largest double past the
largest. -/
theorem thirdLargest_mul_le : thirdLargest * (1 + 1 / 2 ^ 53) ^ 2 ≤ largest := by
  rw [thirdLargest, largest, mul_right_comm]
  exact mul_le_mul_of_nonneg_right (by norm_num) (by positivity)

theorem thirdLargest_le_largest : thirdLargest ≤ largest := by
  rw [thirdLargest, largest]
  exact mul_le_mul_of_nonneg_right (by norm_num) (by positivity)

/-- An unsigned integer of 64 bits is far below the largest double. -/
theorem natCast_le_largest {n : Nat} (h : n ≤ maxUnsigned) : (n : ℚ) ≤ largest := by
  have hcast : (n : ℚ) ≤ maxUnsigned := by exact_mod_cast h
  calc (n : ℚ) ≤ maxUnsigned := hcast
    _ ≤ (2 ^ 53 - 1) * 2 ^ (12 : Int) := by norm_num [maxUnsigned]
    _ ≤ largest := by
      rw [largest]
      exact mul_le_mul_of_nonneg_left (zpow_le_zpow_right₀ one_le_two (by norm_num)) (by norm_num)

/-- The double of a power of ten exceeds it by at most one part in `2 ^ 53`. -/
theorem magnitude_powerOfTen {e : Int} (hsign : 0 ≤ e) (h : (10 : ℚ) ^ e ≤ largest) :
    (powerOfTen e.toNat).magnitude ≤ 10 ^ e * (1 + 1 / 2 ^ 53) := by
  have hpower : ((10 ^ e.toNat : Nat) : ℚ) = 10 ^ e := by
    rw [Nat.cast_pow, Nat.cast_ofNat, ← zpow_natCast, Int.toNat_of_nonneg hsign]
  rw [← hpower] at h ⊢
  obtain ⟨y, hy, hmagnitude⟩ := exists_ofRatio?_one false h
  have hten : powerOfTen e.toNat = y := by
    rw [powerOfTen, ofDecimal?, if_pos (Int.natCast_nonneg _), Int.toNat_natCast, one_mul,
      Nat.pow_eq, hy]
    rfl
  rwa [hten]

/-- A significand and a power of ten whose product is below the third largest double are scaled. -/
theorem isSome_scale? {n : Nat} (hn : n ≤ maxUnsigned) {e : Int}
    (h : (n : ℚ) * 10 ^ e < thirdLargest) :
    ((ofInt? n).bind (scale? · e)).isSome = true := by
  have hsmall := natCast_le_largest hn
  obtain ⟨x, hx, hmagnitude⟩ := exists_ofRatio?_one (decide ((n : Int) < 0)) hsmall
  rw [ofInt?, Int.natAbs_natCast, hx, Option.bind_some, scale?]
  split
  · rfl
  rename_i hsign
  rcases Nat.eq_zero_or_pos n with rfl | hpos
  · -- The double of zero is zero, and stays so.
    cases hx
    split
    · refine isSome_mul? (le_trans (le_of_eq ?_) hsmall)
      simp [Binary64.magnitude, significand]
    · rfl
  have he := exponent_le hpos h
  rw [if_pos he]
  refine isSome_mul? ?_
  have hone : (1 : ℚ) ≤ n := by exact_mod_cast hpos
  have hpower : (10 : ℚ) ^ e ≤ n * 10 ^ e := le_mul_of_one_le_left (by positivity) hone
  have hten := magnitude_powerOfTen (not_lt.mp hsign)
    ((hpower.trans h.le).trans thirdLargest_le_largest)
  calc x.magnitude * (powerOfTen e.toNat).magnitude
      ≤ (n * (1 + 1 / 2 ^ 53)) * (10 ^ e * (1 + 1 / 2 ^ 53)) := by
        refine mul_le_mul hmagnitude hten ?_ (by positivity)
        rw [magnitude]
        positivity
    _ = n * 10 ^ e * (1 + 1 / 2 ^ 53) ^ 2 := by ring
    _ ≤ thirdLargest * (1 + 1 / 2 ^ 53) ^ 2 := by gcongr
    _ ≤ largest := thirdLargest_mul_le

/-- Digits that do not fit any more are left out, which makes the value no larger. -/
theorem takeSignificand_le {digits : List Char} {n : Nat} (hn : n ≤ maxUnsigned) (e : Int) :
    ((takeSignificand n digits).1 : ℚ) *
        10 ^ (e - ((digits.length - (takeSignificand n digits).2.length : Nat) : Int)) ≤
      Nat.ofDigitChars 10 digits n * 10 ^ (e - digits.length) := by
  obtain ⟨taken, hdigits, hvalue, -⟩ := takeSignificand_spec digits hn
  generalize (takeSignificand n digits).2 = dropped at *
  have hlength : digits.length = taken.length + dropped.length := by
    rw [hdigits, List.length_append]
  rw [hvalue, hlength, Nat.add_sub_cancel, hdigits, Nat.ofDigitChars_append]
  have hle := pow_mul_le_ofDigitChars (Nat.ofDigitChars 10 taken n) dropped
  generalize Nat.ofDigitChars 10 taken n = m at hle ⊢
  have hcast : (10 : ℚ) ^ dropped.length * m ≤ Nat.ofDigitChars 10 dropped m := by
    exact_mod_cast hle
  calc (m : ℚ) * 10 ^ (e - taken.length)
      = 10 ^ dropped.length * m * 10 ^ (e - ((taken.length + dropped.length : Nat) : Int)) := by
        rw [mul_comm _ (m : ℚ), mul_assoc, ← zpow_natCast, ← zpow_add₀ (by norm_num)]
        congr 2
        push_cast
        ring
    _ ≤ _ := by gcongr

namespace Literal

/-- The number of an exponent. -/
def exponentValue : Option (Bool × List Char) → Int
  | none => 0
  | some (minus, digits) =>
    if minus then -(Nat.ofDigitChars 10 digits 0 : Int) else Nat.ofDigitChars 10 digits 0

/-- The magnitude that a literal denotes. -/
def magnitude (l : Literal) : ℚ :=
  Nat.ofDigitChars 10 (l.whole ++ l.fraction) 0 *
    10 ^ (exponentValue l.exponent - l.fraction.length)

/-- A literal below the third largest double has a double, if its whole part fits and its exponent
is counted. -/
theorem isSome_float? {l : Literal} (hwhole : Nat.ofDigitChars 10 l.whole 0 ≤ maxUnsigned)
    (hexponent : ∀ digits, l.exponent = some (false, digits) →
      Nat.ofDigitChars 10 digits 0 ≤ maxExponent)
    (h : l.magnitude < thirdLargest) : l.float?.isSome = true := by
  have htake := takeSignificand_of_le hwhole
  obtain ⟨-, -, -, hfits⟩ := takeSignificand_spec l.fraction hwhole
  have hscaled (e : Int) (he : exponentValue l.exponent = e) :
      ((takeSignificand (Nat.ofDigitChars 10 l.whole 0) l.fraction).1 : ℚ) *
        10 ^ (e - ((l.fraction.length -
          (takeSignificand (Nat.ofDigitChars 10 l.whole 0) l.fraction).2.length : Nat) : Int)) <
      thirdLargest := by
    refine lt_of_le_of_lt (takeSignificand_le hwhole e) ?_
    rwa [magnitude, he, Nat.ofDigitChars_append] at h
  rw [float?, htake]
  simp only [List.length_nil]
  cases hexp : l.exponent with
  | none => exact Option.isSome_map.trans (isSome_scale? hfits (hscaled 0 (by rw [hexp]; rfl)))
  | some exponent =>
    obtain ⟨minus, digits⟩ := exponent
    have hvalue : exponentValue l.exponent =
        if minus then -(Nat.ofDigitChars 10 digits 0 : Int) else Nat.ofDigitChars 10 digits 0 := by
      rw [hexp]
      rfl
    have hsome := isSome_scale? hfits (hscaled _ hvalue)
    cases minus with
    | true =>
      simp only [if_true, Bool.true_eq_false, and_false, if_false] at hsome ⊢
      split
      · rfl
      · rw [Option.isSome_map]
        convert hsome using 4
        push_cast
        ring
    | false =>
      have hcounted := hexponent digits hexp
      simp only [if_neg (Nat.not_lt.mpr hcounted), Bool.false_eq_true, if_false] at hsome ⊢
      rw [Option.isSome_map]
      convert hsome using 4
      push_cast
      ring

end Literal

end JsonNumber

end TaskEngine
