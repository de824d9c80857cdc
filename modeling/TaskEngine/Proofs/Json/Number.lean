import TaskEngine.Json.Printer
import TaskEngine.Proofs.Json.Literal
import TaskEngine.Proofs.Number.Shortest

/-!
# Numbers of JSON text read back

The text of a number is the text of a literal, and that literal has a value: an integer of 64 bits
is read back as itself, and a double as some double. The three largest doubles are looked at one by
one, since rounding their literals could lead past the largest.
-/

namespace TaskEngine

open Number

namespace JsonNumber.Literal

/-! ## Literals of doubles -/

/-- The literal in which digits with a point are laid out. -/
def ofDigits (negative : Bool) (digits : List Char) (point : Int) : Literal :=
  if 0 < point ∧ point ≤ 16 then
    if digits.length ≤ point.toNat then
      ⟨negative, digits ++ List.replicate (point.toNat - digits.length) '0', ['0'], none⟩
    else ⟨negative, digits.take point.toNat, digits.drop point.toNat, none⟩
  else if point ≤ 0 ∧ -point ≤ 4 then
    ⟨negative, ['0'], List.replicate (-point).toNat '0' ++ digits, none⟩
  else
    ⟨negative, digits.take 1, digits.drop 1,
      some (decide (point - 1 < 0), Nat.toDigits 10 (point - 1).natAbs)⟩

/-- The literal of a double. -/
def ofDouble (x : Binary64) : Literal :=
  if x.rank = 0 then ⟨x.negative, ['0'], ['0'], none⟩
  else
    let digits := Nat.toDigits 10 x.shortest.digits
    ofDigits x.negative digits (digits.length + x.shortest.scale)

/-- Numbers are positional up to sixteen digits before the point. -/
theorem positional_iff (point : Int) :
    outputLayout.positionalDigits.all (point ≤ ·) = true ↔ point ≤ 16 :=
  decide_eq_true_iff

/-- Numbers are positional down to four zeros after the point. -/
theorem leadingZeros_iff (point : Int) :
    outputLayout.leadingZeros.all (-point ≤ ·) = true ↔ -point ≤ 4 :=
  decide_eq_true_iff

/-- Digits are laid out as the text of their literal. -/
theorem text_ofDigits (negative : Bool) {digits : List Char} (hne : digits ≠ []) (point : Int) :
    (ofDigits negative digits point).text =
      signText negative ++ outputLayout.layOut digits point := by
  rw [ofDigits, FloatLayout.layOut]
  simp only [positional_iff, leadingZeros_iff]
  split
  · split
    · simp [text, fractionText, exponentText, outputLayout]
    · rename_i hlength
      obtain ⟨d, rest, hd⟩ := List.exists_cons_of_ne_nil (mt List.drop_eq_nil_iff.mp hlength)
      simp [text, hd, fractionText, exponentText]
  · split
    · obtain ⟨d, rest, hd⟩ := List.exists_cons_of_ne_nil
        (List.append_ne_nil_of_right_ne_nil (List.replicate (-point).toNat '0') hne)
      simp only [text, fractionText, exponentText, hd, List.cons_append, List.nil_append,
        List.append_nil]
    · cases digits.drop 1 with
      | nil => simp [text, fractionText, exponentText, signText]
      | cons d rest => simp [text, fractionText, exponentText, signText]

/-- The text of a double is that of its literal. -/
theorem render_float (x : Binary64) :
    (JsonNumber.float x).render.toList = (ofDouble x).text := by
  simp only [JsonNumber.render, FloatLayout.render, String.toList_ofList, ofDouble]
  by_cases hzero : x.rank = 0
  · rw [if_pos hzero, if_pos hzero]
    rfl
  · rw [if_neg hzero, if_neg hzero]
    exact (text_ofDigits x.negative Nat.toDigits_ne_nil _).symm

/-- Digits without a zero in front are laid out in a literal that can be written. -/
theorem wellFormed_ofDigits (negative : Bool) {digits : List Char}
    (hdigits : ∀ c ∈ digits, c.isDigit = true) (hne : digits ≠ [])
    (hlead : digits.head? ≠ some '0') (point : Int) :
    (ofDigits negative digits point).WellFormed := by
  have hzeros : ∀ n, ∀ c ∈ List.replicate n '0', c.isDigit = true := by
    intro n c hc
    rw [List.eq_of_mem_replicate hc]
    rfl
  have hzero : ∀ c ∈ ['0'], c.isDigit = true := by
    intro c hc
    rw [List.mem_singleton.mp hc]
    rfl
  rw [ofDigits]
  split
  · rename_i hpoint
    split
    · refine ⟨?_, by simp [hne], ?_, hzero, by simp⟩
      · intro c hc
        exact (List.mem_append.mp hc).elim (hdigits c) (hzeros _ c)
      · intro hhead
        rw [List.head?_append_of_ne_nil _ hne] at hhead
        exact absurd hhead hlead
    · refine ⟨fun c hc => hdigits c (List.mem_of_mem_take hc), ?_, ?_,
        fun c hc => hdigits c (List.mem_of_mem_drop hc), by simp⟩
      · simp only [ne_eq, List.take_eq_nil_iff, hne, or_false]
        omega
      · intro hhead
        rw [List.head?_take, if_neg (by omega)] at hhead
        exact absurd hhead hlead
  · split
    · refine ⟨hzero, by simp, fun _ => rfl, ?_, by simp⟩
      intro c hc
      exact (List.mem_append.mp hc).elim (hzeros _ c) (hdigits c)
    · refine ⟨fun c hc => hdigits c (List.mem_of_mem_take hc), by simp [hne], ?_,
        fun c hc => hdigits c (List.mem_of_mem_drop hc), ?_⟩
      · intro hhead
        rw [List.head?_take, if_neg one_ne_zero] at hhead
        exact absurd hhead hlead
      · intro minus exponent h
        cases h
        refine ⟨Nat.toDigits_ne_nil, fun c hc => ?_⟩
        exact Json.isDigit_of_mem_toDigits hc

/-- The literal has the value of the digits with their point. -/
theorem magnitude_ofDigits (negative : Bool) {digits : List Char} (hne : digits ≠ [])
    (point : Int) : (ofDigits negative digits point).magnitude =
      Nat.ofDigitChars 10 digits 0 * (10 : ℚ) ^ (point - digits.length) := by
  have hlength := List.length_pos_iff.mpr hne
  rw [ofDigits]
  split
  · split
    · -- The zeros after the digits and the one after the point are powers of ten.
      have hvalue :
          Nat.ofDigitChars 10
              (digits ++ List.replicate (point.toNat - digits.length) '0' ++ ['0']) 0 =
            Nat.ofDigitChars 10 digits 0 * 10 ^ (point.toNat - digits.length + 1) := by
        rw [List.append_assoc, ← List.replicate_succ', Nat.ofDigitChars_append,
          Nat.ofDigitChars_replicate_zero, Nat.mul_comm]
      rw [magnitude, hvalue, Nat.cast_mul, mul_assoc, Nat.cast_pow, Nat.cast_ofNat, ← zpow_natCast,
        ← zpow_add₀ (by norm_num)]
      congr 2
      simp only [exponentValue, List.length_singleton]
      omega
    · rw [magnitude, List.take_append_drop, exponentValue, List.length_drop]
      congr 2
      omega
  · split
    · have hvalue : Nat.ofDigitChars 10 (['0'] ++ (List.replicate (-point).toNat '0' ++ digits)) 0 =
          Nat.ofDigitChars 10 digits 0 := by
        rw [← List.append_assoc, List.singleton_append, ← List.replicate_succ,
          Nat.ofDigitChars_append, Nat.ofDigitChars_replicate_zero, Nat.mul_zero]
      rw [magnitude, hvalue, exponentValue, List.length_append, List.length_replicate]
      congr 2
      omega
    · have hexponent : exponentValue (some (decide (point - 1 < 0),
          Nat.toDigits 10 (point - 1).natAbs)) = point - 1 := by
        rw [exponentValue, Nat.ofDigitChars_ten_toDigits]
        split
        · rename_i h
          have := of_decide_eq_true h
          omega
        · rename_i h
          have := of_decide_eq_false (Bool.eq_false_iff.mpr h)
          omega
      rw [magnitude, List.take_append_drop, hexponent, List.length_drop]
      congr 2
      omega

/-- The whole part of a double has at most sixteen digits. -/
theorem length_whole_ofDigits (negative : Bool) (digits : List Char) (point : Int) :
    (ofDigits negative digits point).whole.length ≤ 16 := by
  rw [ofDigits]
  split
  · split
    · simp only [List.length_append, List.length_replicate]
      omega
    · simp only [List.length_take]
      omega
  · split
    · simp
    · simp only [List.length_take]
      omega

/-- The exponent of a double is one less than its point. -/
theorem exponent_ofDigits {negative : Bool} {digits exponent : List Char} {point : Int}
    (h : (ofDigits negative digits point).exponent = some (false, exponent)) :
    (Nat.ofDigitChars 10 exponent 0 : Int) = point - 1 := by
  rw [ofDigits] at h
  split at h
  · split at h <;> cases h
  · split at h
    · cases h
    · simp only [Option.some.injEq, Prod.mk.injEq, decide_eq_false_iff_not] at h
      obtain ⟨hsign, rfl⟩ := h
      rw [Nat.ofDigitChars_ten_toDigits]
      omega

/-- A literal of a double is no integer literal. -/
theorem value?_ofDigits (negative : Bool) {digits : List Char} (hne : digits ≠ []) (point : Int) :
    (ofDigits negative digits point).value? =
      (ofDigits negative digits point).float?.map .float := by
  have hfraction : ((ofDigits negative digits point).fraction.isEmpty &&
      (ofDigits negative digits point).exponent.isNone) = false := by
    rw [ofDigits]
    split
    · split
      · rfl
      · rename_i hlength
        simpa using hlength
    · split
      · simp [hne]
      · simp
  rw [value?, hfraction]
  rfl

end JsonNumber.Literal

namespace JsonNumber

open Literal Binary64

/-- The digits of a number start with a zero for zero only. -/
theorem length_of_head?_toDigits {n : Nat} (h : (Nat.toDigits 10 n).head? = some '0') :
    (Nat.toDigits 10 n).length = 1 := by
  obtain ⟨tail, htail⟩ := List.head?_eq_some_iff.mp h
  have hvalue : Nat.ofDigitChars 10 tail 0 = n := by
    have hread := Nat.ofDigitChars_ten_toDigits (n := n)
    rwa [htail, Nat.ofDigitChars_cons, Nat.sub_self] at hread
  have hlt : Nat.ofDigitChars 10 tail 0 < 10 ^ tail.length := ofDigitChars_lt fun c hc =>
    Json.isDigit_of_mem_toDigits (n := n) (htail ▸ List.mem_cons_of_mem _ hc)
  rw [hvalue] at hlt
  rcases Nat.eq_zero_or_pos tail.length with hnil | hpos
  · rw [htail, List.length_cons, hnil]
  · have hlength := (Nat.length_toDigits_le_iff (by decide) hpos).mpr hlt
    rw [htail, List.length_cons] at hlength
    omega

/-- Digits of a positive number do not start with a zero. -/
theorem head?_toDigits_ne {n : Nat} (h : n ≠ 0) : (Nat.toDigits 10 n).head? ≠ some '0' := by
  intro hhead
  obtain ⟨c, hc⟩ := List.length_eq_one_iff.mp (length_of_head?_toDigits hhead)
  rw [hc] at hhead
  cases hhead
  have hread := Nat.ofDigitChars_ten_toDigits (n := n)
  rw [hc] at hread
  exact h hread.symm

/-- A number is at least the power of ten of its first digit. -/
theorem pow_le_of_length {n k : Nat} (h : n ≠ 0) (hlength : (Nat.toDigits 10 n).length = k + 1) :
    10 ^ k ≤ n := by
  rcases Nat.eq_zero_or_pos k with rfl | hk
  · exact Nat.pos_of_ne_zero h
  · by_contra hlt
    have := (Nat.length_toDigits_le_iff (n := n) (by decide : 1 < 10) hk).mpr (not_le.mp hlt)
    omega

/-- The literal of a double below the third largest is below it. -/
theorem isSome_float?_of_lt {x : Binary64} (hzero : x.rank ≠ 0) (hless : x.rank < rankBound - 3) :
    (ofDouble x).float?.isSome = true := by
  have hvalue := (value_shortest hzero).2 hless
  have hdigits := digits_shortest_ne_zero hzero
  simp only [ofDouble, if_neg hzero]
  rw [Decimal.value] at hvalue
  generalize x.shortest.digits = n at *
  generalize x.shortest.scale = scale at *
  have hwell : (ofDigits x.negative (Nat.toDigits 10 n)
      ((Nat.toDigits 10 n).length + scale)).WellFormed :=
    wellFormed_ofDigits x.negative (fun c hc => Json.isDigit_of_mem_toDigits hc)
      Nat.toDigits_ne_nil (head?_toDigits_ne hdigits) _
  refine isSome_float? ?_ ?_ ?_
  · have hlength := length_whole_ofDigits x.negative (Nat.toDigits 10 n)
      ((Nat.toDigits 10 n).length + scale)
    calc Nat.ofDigitChars 10 _ 0 ≤ 10 ^ (ofDigits x.negative (Nat.toDigits 10 n)
          ((Nat.toDigits 10 n).length + scale)).whole.length := (ofDigitChars_lt hwell.whole).le
      _ ≤ 10 ^ 16 := Nat.pow_le_pow_right (by decide) hlength
      _ ≤ maxUnsigned := by decide
  · intro exponent hexponent
    have hcount := exponent_ofDigits hexponent
    obtain ⟨k, hk⟩ := Nat.exists_eq_add_of_le' (Nat.length_toDigits_pos (b := 10) (n := n))
    have hfirst : (10 : ℚ) ^ k ≤ n := by exact_mod_cast pow_le_of_length hdigits hk
    have hpower : ((1 : Nat) : ℚ) * 10 ^ ((k : Int) + scale) < thirdLargest := by
      refine lt_of_le_of_lt ?_ hvalue
      rw [Nat.cast_one, one_mul, zpow_add₀ (by norm_num), zpow_natCast]
      gcongr
    have hle := exponent_le Nat.one_pos hpower
    rw [hk] at hcount
    have : (Nat.ofDigitChars 10 exponent 0 : Int) ≤ 308 := by omega
    have : 308 ≤ maxExponent := by decide
    omega
  · rw [magnitude_ofDigits _ Nat.toDigits_ne_nil, Nat.ofDigitChars_ten_toDigits,
      add_sub_cancel_left]
    exact hvalue

/-- The literal of a double has a double. -/
theorem isSome_float?_ofDouble (x : Binary64) : (ofDouble x).float?.isSome = true := by
  by_cases hzero : x.rank = 0
  · rw [ofDouble, if_pos hzero]
    cases x.negative <;> rfl
  by_cases hless : x.rank < rankBound - 3
  · exact isSome_float?_of_lt hzero hless
  -- The three largest doubles, of either sign.
  obtain ⟨negative, rank, finite⟩ := x
  have hlargest : rank = rankBound - 1 ∨ rank = rankBound - 2 ∨ rank = rankBound - 3 := by
    simp only at hless
    omega
  rcases hlargest with rfl | rfl | rfl <;> cases negative <;> revert finite <;> decide +kernel

/-! ## Numbers read back -/

/-- Whether an integer is one of 64 bits, signed or unsigned, as every integer of a value is. -/
def Fits : JsonNumber → Prop
  | .int n => -2 ^ 63 ≤ n ∧ n ≤ maxUnsigned
  | .float _ => True

/-- The number as which the text of a number is read. -/
def reread : JsonNumber → JsonNumber
  | .int n => .int n
  | .float x => .float ((ofDouble x).float?.getD x)

/-- The literal of a number. -/
def literal : JsonNumber → Literal
  | .int n => ⟨decide (n < 0), Nat.toDigits 10 n.natAbs, [], none⟩
  | .float x => ofDouble x

/-- The text of a number is that of its literal. -/
theorem render_eq (n : JsonNumber) : n.render.toList = n.literal.text := by
  cases n with
  | float x => exact render_float x
  | int n =>
    rw [render, literal]
    cases n with
    | ofNat n => simp [toString, Int.repr, text, signText, fractionText, exponentText]
    | negSucc n => simp [toString, Int.repr, text, signText, fractionText, exponentText]

/-- The literal of a number can be written. -/
theorem wellFormed_literal (n : JsonNumber) : n.literal.WellFormed := by
  cases n with
  | int n =>
    refine ⟨fun c hc => Json.isDigit_of_mem_toDigits hc, Nat.toDigits_ne_nil,
      length_of_head?_toDigits, ?_, ?_⟩
    · simp [literal]
    · simp [literal]
  | float x =>
    simp only [literal, ofDouble]
    by_cases hzero : x.rank = 0
    · rw [if_pos hzero]
      exact ⟨List.forall_mem_singleton.mpr rfl, by simp, fun _ => rfl,
        List.forall_mem_singleton.mpr rfl, by simp⟩
    · rw [if_neg hzero]
      exact wellFormed_ofDigits x.negative (fun c hc => Json.isDigit_of_mem_toDigits hc)
        Nat.toDigits_ne_nil (head?_toDigits_ne (digits_shortest_ne_zero hzero)) _

/-- The literal of a number that fits has its value. -/
theorem value?_literal {n : JsonNumber} (h : n.Fits) : n.literal.value? = some n.reread := by
  cases n with
  | int n =>
    obtain ⟨hlow, hhigh⟩ := h
    simp only [literal, value?, Nat.ofDigitChars_ten_toDigits]
    by_cases hsign : n < 0
    · have hmagnitude : 0 < n.natAbs ∧ n.natAbs ≤ 0x8000000000000000 := by omega
      have hvalue : -(n.natAbs : Int) = n := by omega
      simp only [hsign, hmagnitude, hvalue]
      rfl
    · have hmagnitude : n.natAbs ≤ maxUnsigned := by omega
      have hvalue : (n.natAbs : Int) = n := by omega
      simp only [hsign, hmagnitude, hvalue]
      rfl
  | float x =>
    obtain ⟨y, hy⟩ := Option.isSome_iff_exists.mp (isSome_float?_ofDouble x)
    have hvalue : (ofDouble x).value? = (ofDouble x).float?.map .float := by
      simp only [ofDouble]
      by_cases hzero : x.rank = 0
      · rw [if_pos hzero]
        rfl
      · rw [if_neg hzero]
        exact value?_ofDigits x.negative Nat.toDigits_ne_nil _
    rw [literal, reread, hvalue, hy]
    rfl

/-- A number is read back from its text. -/
theorem readNumber_render {n : JsonNumber} (h : n.Fits) {rest : List Char}
    (hrest : Json.EndsNumber rest) :
    Json.readNumber (n.render.toList ++ rest) = some (n.reread, rest) := by
  rw [render_eq, Json.readNumber_text n.wellFormed_literal hrest, value?_literal h]
  rfl

end JsonNumber

end TaskEngine
