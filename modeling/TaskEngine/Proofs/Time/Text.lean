import Mathlib.Data.List.TakeWhile
import TaskEngine.Proofs.Json.Literal
import TaskEngine.Proofs.Outcome
import TaskEngine.Proofs.Time.Calendar

/-!
# Points in time and their texts

The interchange form of a point in time is read back as that point, whatever its fraction and whether
or not it is a leap second. Each part of the form ends where its digits end, so it is read by itself,
and the date of a day leads back to the day.
-/

namespace TaskEngine.Instant

/-! ## Numbers with a width -/

theorem toList_padded (width n : Nat) : (padded width n).toList =
    List.replicate (width - (Nat.toDigits 10 n).length) '0' ++ Nat.toDigits 10 n := by
  simp only [padded, Nat.toString_eq_ofList_toDigits, String.toList_append, String.toList_ofList,
    String.length_ofList]

theorem isDigit_of_mem_padded {width n : Nat} {c : Char} (h : c ∈ (padded width n).toList) :
    c.isDigit = true := by
  rw [toList_padded, List.mem_append, List.mem_replicate] at h
  obtain ⟨-, rfl⟩ | h := h
  · rfl
  · exact Nat.isDigit_of_mem_toDigits (by decide) (by decide) h

/-- Zeros in front do not change a number. -/
theorem ofDigitChars_padded (width n : Nat) :
    Nat.ofDigitChars 10 (padded width n).toList 0 = n := by
  rw [toList_padded, Nat.ofDigitChars_append, Nat.ofDigitChars_replicate_zero,
    Nat.mul_zero, Nat.ofDigitChars_ten_toDigits]

/-- A number that fits its width takes it. -/
theorem length_padded {width n : Nat} (hwidth : 0 < width) (h : n < 10 ^ width) :
    (padded width n).toList.length = width := by
  have hlength := (Nat.length_toDigits_le_iff (by decide) hwidth).mpr h
  rw [toList_padded, List.length_append, List.length_replicate]
  omega

theorem padded_ne_nil (width n : Nat) : (padded width n).toList ≠ [] := by
  rw [toList_padded]
  exact fun h => Nat.toDigits_ne_nil (List.append_eq_nil_iff.mp h).2

/-- Digits are read up to the width or the first other character. -/
theorem readNumber_append {width : Nat} {digits rest : List Char}
    (hdigits : ∀ c ∈ digits, c.isDigit = true) (hne : digits ≠ [])
    (hend : digits.length = width ∨
      digits.length ≤ width ∧ ∀ c ∈ rest.head?, c.isDigit = false) :
    readNumber width (digits ++ rest) = .ok (Nat.ofDigitChars 10 digits 0, rest) := by
  have hread : ((digits ++ rest).take width).takeWhile Char.isDigit = digits := by
    obtain hwidth | ⟨hwidth, hrest⟩ := hend
    · rw [List.take_append_of_le_length (by omega), List.take_of_length_le (by omega)]
      exact List.takeWhile_eq_self_iff.mpr hdigits
    · rw [List.take_append, List.take_of_length_le hwidth, List.takeWhile_append_of_pos hdigits]
      cases rest with
      | nil => simp
      | cons c rest =>
        have hc := hrest c (by simp)
        cases width - digits.length <;> simp [hc]
  have hdigitsEmpty : digits.isEmpty = false := by simpa using hne
  simp [readNumber, hread, hdigitsEmpty]

/-- A padded number is read back. -/
theorem readNumber_padded {width n : Nat} (hwidth : 0 < width) (h : n < 10 ^ width)
    (rest : List Char) :
    readNumber width ((padded width n).toList ++ rest) = .ok (n, rest) := by
  rw [readNumber_append (fun _ => isDigit_of_mem_padded) (padded_ne_nil _ _)
    (.inl (length_padded hwidth h)), ofDigitChars_padded]

/-! ## Parts of the interchange form -/

theorem isBlankChar_of_isDigit {c : Char} (h : c.isDigit = true) : Text.isBlankChar c = false := by
  simp only [Char.isDigit, Bool.and_eq_true, decide_eq_true_eq] at h
  have hcode : 48 ≤ c.toNat ∧ c.toNat ≤ 57 := h
  simp only [Text.isBlankChar, Bool.or_eq_false_iff, Bool.and_eq_false_iff, decide_eq_false_iff_not,
    beq_eq_false_iff_ne]
  omega

/-- Nothing is left out in front of a digit. -/
theorem trimFront_append {digits : List Char} (hdigits : ∀ c ∈ digits, c.isDigit = true)
    (hne : digits ≠ []) (rest : List Char) :
    Text.trimFront (digits ++ rest) = digits ++ rest := by
  obtain ⟨c, digits, rfl⟩ := List.exists_cons_of_ne_nil hne
  have hc := isBlankChar_of_isDigit (hdigits c List.mem_cons_self)
  simp [Text.trimFront, hc]

/-- A padded number within bounds is read back. -/
theorem readBounded_padded {low high n : Nat} (hlow : low ≤ n) (hhigh : n ≤ high)
    (h : high < 100) (rest : List Char) :
    readBounded 2 low high ((padded 2 n).toList ++ rest) = .ok (n, rest) := by
  rw [readBounded, trimFront_append (fun _ => isDigit_of_mem_padded) (padded_ne_nil _ _),
    readNumber_padded (by decide) (by omega)]
  exact if_pos ⟨hlow, hhigh⟩

/-- A separator is read. -/
theorem readMark_cons {mark : Char} (h : Text.isBlankChar mark = false) (rest : List Char) :
    readMark mark (mark :: rest) = .ok rest := by
  simp [readMark, Text.trimFront, h]

theorem readYear_minus {cs rest : List Char} {n : Nat}
    (h : readNumber cs.length cs = .ok (n, rest)) (hn : n ≤ 0x80000000) :
    readYear ('-' :: cs) = .ok (-(n : Int), rest) := by
  change (readNumber cs.length cs >>= fun read =>
    if read.1 ≤ 0x80000000 then Except.ok (-(read.1 : Int), read.2) else _) = _
  rw [h]
  change (if n ≤ 0x80000000 then Except.ok (-(n : Int), rest) else _) = _
  rw [if_pos hn]

theorem readYear_plus {cs rest : List Char} {n : Nat}
    (h : readNumber cs.length cs = .ok (n, rest)) (hn : n < 0x80000000) :
    readYear ('+' :: cs) = .ok ((n : Int), rest) := by
  change (readNumber cs.length cs >>= fun read =>
    if read.1 < 0x80000000 then Except.ok ((read.1 : Int), read.2) else _) = _
  rw [h]
  change (if n < 0x80000000 then Except.ok ((n : Int), rest) else _) = _
  rw [if_pos hn]

/-- A year is read back, with a sign and without. -/
theorem readYear_yearText {year : Int} (hlow : minYear ≤ year) (hhigh : year ≤ maxYear)
    {c : Char} (hc : c.isDigit = false) (rest : List Char) :
    readYear ((yearText year).toList ++ c :: rest) = .ok (year, c :: rest) := by
  rw [minYear] at hlow
  rw [maxYear] at hhigh
  rw [yearText]
  split
  · rename_i hplain
    obtain ⟨n, rfl⟩ := Int.eq_ofNat_of_zero_le hplain.1
    obtain ⟨d, digits, hdigits⟩ := List.exists_cons_of_ne_nil (padded_ne_nil 4 n)
    have hd : d.isDigit = true := isDigit_of_mem_padded (hdigits ▸ List.mem_cons_self)
    have hread : readNumber 4 ((padded 4 n).toList ++ c :: rest) = .ok (n, c :: rest) :=
      readNumber_padded (by decide) (by omega) _
    rw [Int.toNat_natCast, readYear,
      trimFront_append (fun _ => isDigit_of_mem_padded) (padded_ne_nil _ _)]
    rw [hdigits, List.cons_append] at hread ⊢
    split
    · rename_i hcons
      cases hcons
      cases hd
    · rename_i hcons
      cases hcons
      cases hd
    · rw [hread]
      rfl
  · have hread : readNumber ((padded 4 year.natAbs).toList ++ c :: rest).length
        ((padded 4 year.natAbs).toList ++ c :: rest) = .ok (year.natAbs, c :: rest) := by
      rw [readNumber_append (fun _ => isDigit_of_mem_padded) (padded_ne_nil _ _)
        (.inr ⟨by simp, by simpa using hc⟩), ofDigitChars_padded]
    rw [String.toList_append, List.append_assoc]
    split
    · rw [show "-".toList = ['-'] by rfl, List.singleton_append, readYear_minus hread (by omega),
        show -(year.natAbs : Int) = year by omega]
    · rw [show "+".toList = ['+'] by rfl, List.singleton_append, readYear_plus hread (by omega),
        show (year.natAbs : Int) = year by omega]

theorem dropWhile_isDigit {rest : List Char} (h : ∀ c ∈ rest.head?, c.isDigit = false) :
    rest.dropWhile Char.isDigit = rest := by
  cases rest with
  | nil => rfl
  | cons c rest => simp [h c rfl]

/-- A fraction of up to nine digits is read back. -/
theorem readNanos_point {width n : Nat} (hwidth : 0 < width) (hnine : width ≤ 9)
    (hn : n < 10 ^ width) {rest : List Char} (hrest : ∀ c ∈ rest.head?, c.isDigit = false) :
    readNanos (("." ++ padded width n).toList ++ rest) = .ok (n * 10 ^ (9 - width), rest) := by
  have hlength := length_padded hwidth hn
  have hread : readNumber 9 ((padded width n).toList ++ rest) = .ok (n, rest) := by
    rw [readNumber_append (fun _ => isDigit_of_mem_padded) (padded_ne_nil _ _)
      (.inr ⟨by omega, hrest⟩), ofDigitChars_padded]
  rw [String.toList_append]
  change (readNumber 9 ((padded width n).toList ++ rest) >>= fun read =>
    let digits := ((padded width n).toList ++ rest).length - read.2.length
    Except.ok (read.1 * Nat.pow 10 (9 - digits), read.2.dropWhile Char.isDigit)) = _
  rw [hread]
  change Except.ok (n * Nat.pow 10 (9 - (((padded width n).toList ++ rest).length - rest.length)),
    rest.dropWhile Char.isDigit) = _
  rw [dropWhile_isDigit hrest, List.length_append, hlength, Nat.add_sub_cancel, Nat.pow_eq]

/-- The fraction of a second is read back. -/
theorem readNanos_fractionText (t : Instant) {c : Char} (hc : c.isDigit = false) (hpoint : c ≠ '.')
    (rest : List Char) :
    readNanos (t.fractionText.toList ++ c :: rest) = .ok (t.nanos % 1000000000, c :: rest) := by
  have hrest : ∀ d ∈ (c :: rest).head?, d.isDigit = false := by
    rintro _ ⟨⟩
    exact hc
  simp only [fractionText]
  split
  · rename_i hzero
    rw [hzero, show "".toList = [] by rfl, List.nil_append, readNanos]
    rintro _ ⟨⟩
    exact hpoint rfl
  · split
    · rename_i hmillis
      rw [readNanos_point (by decide) (by decide) (by omega) hrest,
        show 10 ^ (9 - 3) = 1000000 by rfl, Nat.div_mul_cancel (Nat.dvd_of_mod_eq_zero hmillis)]
    · split
      · rename_i hmicros
        rw [readNanos_point (by decide) (by decide) (by omega) hrest,
          show 10 ^ (9 - 6) = 1000 by rfl, Nat.div_mul_cancel (Nat.dvd_of_mod_eq_zero hmicros)]
      · rw [readNanos_point (by decide) (by decide) (by omega) hrest, Nat.sub_self, Nat.pow_zero,
          Nat.mul_one]

/-! ## The interchange form -/

/-- What the calendar and the clock can show: the year is within bounds, and a leap second ends a
minute. -/
structure IsRepresentable (t : Instant) : Prop where
  minYear_le : minYear ≤ t.date.year
  le_maxYear : t.date.year ≤ maxYear
  nanos_lt : t.nanos < 2000000000
  ends_minute : 1000000000 ≤ t.nanos → t.seconds % 60 = 59

/-- The seconds of the day, without a leap second. -/
def ofDay (t : Instant) : Nat := (Int.fmod t.seconds 86400).toNat

theorem ofDay_lt (t : Instant) : t.ofDay < 86400 := by
  have := Int.fmod_lt_of_pos t.seconds (by decide : (0 : Int) < 86400)
  have := Int.fmod_nonneg_of_pos t.seconds (by decide : (0 : Int) < 86400)
  rw [ofDay]
  omega

/-- A point in time is its day and its seconds of the day. -/
theorem seconds_eq (t : Instant) : t.seconds = Int.fdiv t.seconds 86400 * 86400 + t.ofDay := by
  have hparts := Int.mul_fdiv_add_fmod t.seconds 86400
  have := Int.fmod_nonneg_of_pos t.seconds (by decide : (0 : Int) < 86400)
  rw [ofDay]
  omega

/-- The second of the minute that a clock shows. -/
def shownSecond (t : Instant) : Nat := t.ofDay % 60 + if 1000000000 ≤ t.nanos then 1 else 0

theorem toList_render (t : Instant) : t.render.toList =
    (yearText t.date.year).toList ++ '-' :: ((padded 2 t.date.month).toList ++
      '-' :: ((padded 2 t.date.day).toList ++ 'T' :: ((padded 2 (t.ofDay / 3600)).toList ++
        ':' :: ((padded 2 (t.ofDay / 60 % 60)).toList ++ ':' :: ((padded 2 t.shownSecond).toList ++
          (t.fractionText.toList ++ ['Z'])))))) := by
  simp [render, dateText, clockText, shownSecond, ofDay]

/-- The date and the clock of a point in time lead back to it. -/
theorem resolve_date {t : Instant} (h : t.IsRepresentable) :
    resolve t.date (t.ofDay / 3600) (t.ofDay / 60 % 60) t.shownSecond (t.nanos % 1000000000) 0 =
      .ok t := by
  obtain ⟨hdays, -, -, hday⟩ := CalendarDate.ofDays_spec (Int.fdiv t.seconds 86400)
  change t.date.toDays = _ at hdays
  change t.date.day ≤ CalendarDate.daysInMonth t.date.year t.date.month at hday
  have hminYear := h.minYear_le
  have hmaxYear := h.le_maxYear
  have hclock : ofClock t.date (t.ofDay / 3600) (t.ofDay / 60 % 60) t.shownSecond
      (t.nanos % 1000000000) 0 = t := by
    have := t.seconds_eq
    have := h.ends_minute
    have := h.nanos_lt
    rw [ofClock, hdays, Instant.mk.injEq]
    unfold shownSecond
    constructor <;> split_ifs <;> omega
  rw [resolve, if_neg (by decide), if_neg (by omega)]
  simp only [hclock]
  rw [if_neg (by omega)]

/-- A point in time is read back from its interchange form. -/
theorem read_render {t : Instant} (h : t.IsRepresentable) : read t.render = .ok t := by
  obtain ⟨-, ⟨hmonth, hmonth'⟩, hday, hday'⟩ :=
    CalendarDate.ofDays_spec (Int.fdiv t.seconds 86400)
  change 1 ≤ t.date.month at hmonth
  change t.date.month ≤ 12 at hmonth'
  change 1 ≤ t.date.day at hday
  have hlong : t.date.day ≤ 31 := hday'.trans (CalendarDate.daysInMonth_le _ _)
  have hofDay := t.ofDay_lt
  have hsecond : t.shownSecond ≤ 60 := by
    rw [shownSecond]
    split <;> omega
  rw [read, toList_render, readYear_yearText h.minYear_le h.le_maxYear
    (by decide : Char.isDigit '-' = false)]
  simp only [Outcome.ok_bind, readMark_cons (by decide : Text.isBlankChar '-' = false),
    readMark_cons (by decide : Text.isBlankChar ':' = false),
    readBounded_padded hmonth hmonth' (by decide), readBounded_padded hday hlong (by decide),
    readBounded_padded (Nat.zero_le _) (by omega : t.ofDay / 3600 ≤ 23) (by decide),
    readBounded_padded (Nat.zero_le _) (by omega : t.ofDay / 60 % 60 ≤ 59) (by decide),
    readBounded_padded (Nat.zero_le _) hsecond (by decide),
    readNanos_fractionText t (by decide : Char.isDigit 'Z' = false) (by decide), readDivider,
    true_or, if_true]
  exact resolve_date h

/-- A leap second is shown as the sixtieth one. -/
example : render ⟨1483228799, 1500000000⟩ = "2016-12-31T23:59:60.500Z" := by decide

/-! ## What is read -/

/-- What is read as a number is a run of digits. -/
theorem exists_digits_of_readNumber {width n : Nat} {cs rest : List Char}
    (h : readNumber width cs = .ok (n, rest)) :
    ∃ digits, cs = digits ++ rest ∧ digits.length ≤ width ∧
      (∀ c ∈ digits, c.isDigit = true) ∧ n = Nat.ofDigitChars 10 digits 0 := by
  simp only [readNumber] at h
  split at h
  · cases h
  cases h
  refine ⟨_, ?_, ?_, fun c hc => List.mem_takeWhile_imp hc, rfl⟩
  · exact (List.prefix_iff_eq_append.mp ((List.takeWhile_prefix _).trans (List.take_prefix _ _))).symm
  · exact (List.takeWhile_prefix _).length_le.trans (List.length_take_le _ _)

/-- A fraction counts nanoseconds within a second. -/
theorem readNanos_lt {cs rest : List Char} {nanos : Nat} (h : readNanos cs = .ok (nanos, rest)) :
    nanos < 1000000000 := by
  unfold readNanos at h
  split at h
  · obtain ⟨⟨n, after⟩, hread, h⟩ := Outcome.bind_eq_ok.mp h
    cases h
    obtain ⟨digits, hcs, hnine, hdigits, rfl⟩ := exists_digits_of_readNumber hread
    simp only [hcs, List.length_append, Nat.add_sub_cancel, Nat.pow_eq]
    have hlt : Nat.ofDigitChars 10 digits 0 < 10 ^ digits.length := by
      exact JsonNumber.ofDigitChars_lt hdigits
    calc Nat.ofDigitChars 10 digits 0 * 10 ^ (9 - digits.length)
        < 10 ^ digits.length * 10 ^ (9 - digits.length) :=
          Nat.mul_lt_mul_of_pos_right hlt (Nat.pow_pos (by decide))
      _ = 1000000000 := by rw [← Nat.pow_add, Nat.add_sub_cancel' hnine]
  · cases h
    decide

theorem readOffsetTime_spec {cs rest : List Char} {offset : Nat}
    (h : readOffsetTime cs = .ok (offset, rest)) : offset % 60 = 0 := by
  obtain ⟨⟨hours, after⟩, -, h⟩ := Outcome.bind_eq_ok.mp h
  obtain ⟨⟨minutes, after'⟩, -, h⟩ := Outcome.bind_eq_ok.mp h
  cases h
  omega

/-- An offset counts whole minutes. -/
theorem readOffset_spec {cs rest : List Char} {offset : Int}
    (h : readOffset cs = .ok (offset, rest)) : offset % 60 = 0 := by
  have hsigned {cs : List Char} (sign : Nat → Int) (hsign : ∀ n, n % 60 = 0 → sign n % 60 = 0)
      (h : (readOffsetTime cs).map (fun read => (sign read.1, read.2)) = .ok (offset, rest)) :
      offset % 60 = 0 := by
    cases hread : readOffsetTime cs with
    | error e => rw [hread] at h; cases h
    | ok read =>
      rw [hread] at h
      cases h
      exact hsign _ (readOffsetTime_spec hread)
  unfold readOffset at h
  split at h
  · cases h; rfl
  · cases h; rfl
  · exact hsigned (fun n => (n : Int)) (fun n hn => by omega) h
  · exact hsigned (fun n => -(n : Int)) (fun n hn => by omega) h
  · exact hsigned (fun n => -(n : Int)) (fun n hn => by omega) h
  · split at h <;> cases h
    rfl
  · cases h
  · cases h

/-- A date and a clock show a point in time that can be shown. -/
theorem isRepresentable_of_resolve {date : CalendarDate} {hour minute second nanos : Nat}
    {offset : Int} {t : Instant} (hnanos : nanos < 1000000000) (hoffset : offset % 60 = 0)
    (h : resolve date hour minute second nanos offset = .ok t) : t.IsRepresentable := by
  simp only [resolve] at h
  split at h
  · cases h
  split at h
  · cases h
  split at h
  · cases h
  rename_i hyears
  rw [not_or, Int.not_lt, Int.not_lt] at hyears
  cases h
  refine ⟨hyears.2, hyears.1, ?_, ?_⟩
  · simp only [ofClock]
    split <;> omega
  · simp only [ofClock]
    split <;> omega

/-- Whatever is read can be shown. -/
theorem isRepresentable_of_read {text : String} {t : Instant} (h : read text = .ok t) :
    t.IsRepresentable := by
  simp only [read, Outcome.bind_eq_ok] at h
  obtain ⟨_, -, _, -, _, -, _, -, _, -, _, -, _, -, _, -, _, -, _, -, _, -, _, hnanos, _, hoffset,
    h⟩ := h
  split at h
  · exact isRepresentable_of_resolve (readNanos_lt hnanos) (readOffset_spec hoffset) h
  · cases h

/-! ## The JSON form -/

theorem decode_encode {t : Instant} (h : t.IsRepresentable) : decode (encode t) = .ok t := by
  rw [encode, decode, read_render h]

theorem isRepresentable_of_decode {j : Json} {t : Instant} (h : decode j = .ok t) :
    t.IsRepresentable := by
  cases j with
  | str text =>
    simp only [decode] at h
    split at h
    · cases h
      exact isRepresentable_of_read ‹_›
    · cases h
  | null | bool _ | num _ | arr _ | obj _ => cases h

end TaskEngine.Instant
