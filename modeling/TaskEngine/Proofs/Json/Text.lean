import TaskEngine.Json.Printer
import TaskEngine.Json.Reader

/-!
# Strings of JSON text read back

A character is written as itself, as a short escape or as a sixteen-bit unit, and the reader takes
each of the three forms for the character. A quoted string is therefore read back as it was,
whatever follows it.
-/

namespace TaskEngine.Json

open Text (hexDigit)

/-- Put a character in front of the text that was read. -/
def putFirst (c : Char) (reading : List Char × List Char) : List Char × List Char :=
  (c :: reading.1, reading.2)

/-- A character without an escape. -/
theorem readText_plain {c : Char} (hquote : c ≠ '"') (hslash : c ≠ '\\') (hplain : 0x20 ≤ c.toNat)
    (rest : List Char) : readText (c :: rest) = (readText rest).map (putFirst c) := by
  rw [readText]
  · have hslash : (c == '\\') = false := by simpa using hslash
    have hplain : ¬ c.toNat < 32 := by omega
    simp only [hslash, hplain]
    rfl
  all_goals simp_all

/-- A character behind a one-letter escape. -/
theorem readText_short {e c : Char} (hunit : e ≠ 'u') (h : shortEscape? e = some c)
    (rest : List Char) : readText ('\\' :: e :: rest) = (readText rest).map (putFirst c) := by
  rw [readText]
  · simp only [h]
    rfl
  all_goals simp_all

/-- A character behind a unit that is no half of a pair, whether another unit follows or not. -/
theorem readText_unit {a b c d : Char} {u : Nat} (h : unit? a b c d = some u)
    (hlead : isLeadUnit u = false) (htrail : isTrailUnit u = false) (rest : List Char) :
    readText ('\\' :: 'u' :: a :: b :: c :: d :: rest) =
      (readText rest).map (putFirst (Char.ofNat u)) := by
  by_cases hnext : ∃ e f g k more, rest = '\\' :: 'u' :: e :: f :: g :: k :: more
  · obtain ⟨e, f, g, k, more, rfl⟩ := hnext
    rw [readText]
    simp only [h, hlead, htrail]
    rfl
  · rw [readText]
    · simp only [h, hlead, htrail]
      rfl
    all_goals simp_all

/-- The digits of a control character are those of its number. -/
theorem unit?_hexDigit :
    ∀ n < 0x20, unit? '0' '0' (hexDigit (n / 16)) (hexDigit (n % 16)) = some n := by
  decide

/-- A character is read back from what it is written as. -/
theorem readText_escapeChar (c : Char) (rest : List Char) :
    readText (escapeChar c ++ rest) = (readText rest).map (putFirst c) := by
  unfold escapeChar
  split
  · exact readText_short (by decide) rfl rest
  · exact readText_short (by decide) rfl rest
  · exact readText_short (by decide) rfl rest
  · exact readText_short (by decide) rfl rest
  · exact readText_short (by decide) rfl rest
  · exact readText_short (by decide) rfl rest
  · exact readText_short (by decide) rfl rest
  · rename_i hquote hslash _ _ _ _ _
    split
    · rename_i hcontrol
      have hlead : isLeadUnit c.toNat = false := by simp [isLeadUnit]; omega
      have htrail : isTrailUnit c.toNat = false := by simp [isTrailUnit]; omega
      have hunit := readText_unit (unit?_hexDigit c.toNat hcontrol) hlead htrail rest
      rw [Char.ofNat_toNat] at hunit
      exact hunit
    · exact readText_plain hquote hslash (by omega) rest

/-- The characters of a string are read back up to its closing quote. -/
theorem readText_flatMap_escapeChar (cs rest : List Char) :
    readText (cs.flatMap escapeChar ++ '"' :: rest) = some (cs, rest) := by
  induction cs with
  | nil => simp [readText]
  | cons c cs ih =>
    rw [List.flatMap_cons, List.append_assoc, readText_escapeChar, ih]
    rfl

/-- A quoted string starts with a quote, and its text is read back after it. -/
theorem quoteChars_append (text : String) (rest : List Char) :
    ∃ tail, quoteChars text ++ rest = '"' :: tail ∧ readText tail = some (text.toList, rest) := by
  refine ⟨text.toList.flatMap escapeChar ++ '"' :: rest, ?_, readText_flatMap_escapeChar _ _⟩
  simp [quoteChars]

end TaskEngine.Json
