import TaskEngine.Name

/-!
# Labels by their characters

Labels are recognised by their bytes. A letter, a digit or a hyphen is one byte, and every byte of a
character beyond ASCII is beyond it too, so the bytes of a text are those of a label exactly if its
characters are the ones of a label.
-/

namespace TaskEngine

/-! ## Bytes that tell of their characters -/

/-- A character has a first byte. -/
theorem Text.utf8EncodeChar_ne_nil (c : Char) : String.utf8EncodeChar c ≠ [] := by
  unfold String.utf8EncodeChar
  simp only
  split
  · exact List.cons_ne_nil _ _
  · split
    · exact List.cons_ne_nil _ _
    · split <;> exact List.cons_ne_nil _ _

/-- A character in ASCII is the byte with its number, and the bytes of any other one are beyond. -/
theorem Text.mem_utf8EncodeChar {c : Char} {b : UInt8} (h : b ∈ String.utf8EncodeChar c) :
    b.toNat = c.toNat ∨ 128 ≤ b.toNat ∧ 128 ≤ c.toNat := by
  have hmod : ∀ n, (UInt8.ofNat n).toNat = n % 256 := fun n => UInt8.toNat_ofNat
  rw [String.utf8EncodeChar, Char.toNat_val] at h
  split at h
  · rw [List.mem_singleton.mp h, hmod]
    exact .inl (Nat.mod_eq_of_lt (by omega))
  · right
    split at h
    · simp only [List.mem_cons, List.not_mem_nil, or_false] at h
      rcases h with rfl | rfl <;> rw [hmod] <;> omega
    · split at h <;> simp only [List.mem_cons, List.not_mem_nil, or_false] at h
      · rcases h with rfl | rfl | rfl <;> rw [hmod] <;> omega
      · rcases h with rfl | rfl | rfl | rfl <;> rw [hmod] <;> omega

/-- Whether a test of bytes finds in each byte of a character what a test finds in the character. -/
def Text.TellsOf (test : UInt8 → Bool) (holds : Char → Bool) : Prop :=
  ∀ c, ∀ b ∈ String.utf8EncodeChar c, test b = holds c

namespace Text.TellsOf

variable {test : UInt8 → Bool} {holds : Char → Bool} (h : TellsOf test holds)

include h

theorem all_eq (cs : List Char) :
    (cs.flatMap String.utf8EncodeChar).all test = cs.all holds := by
  induction cs with
  | nil => rfl
  | cons c cs ih =>
    obtain ⟨b, bytes, hbytes⟩ := List.exists_cons_of_ne_nil (utf8EncodeChar_ne_nil c)
    have hsame : (String.utf8EncodeChar c).all test = holds c := by
      cases hc : holds c with
      | true => exact List.all_eq_true.mpr fun b hb => (h c b hb).trans hc
      | false =>
        rw [hbytes, List.all_cons, h c b (hbytes ▸ List.mem_cons_self), hc, Bool.false_and]
    rw [List.flatMap_cons, List.all_append, ih, hsame, List.all_cons]

theorem any_head? (cs : List Char) :
    (cs.flatMap String.utf8EncodeChar).head?.any test = cs.head?.any holds := by
  cases cs with
  | nil => rfl
  | cons c cs =>
    obtain ⟨b, bytes, hbytes⟩ := List.exists_cons_of_ne_nil (utf8EncodeChar_ne_nil c)
    have hfirst := h c b (hbytes ▸ List.mem_cons_self)
    simp [List.flatMap_cons, hbytes, hfirst]

theorem any_getLast? (cs : List Char) :
    (cs.flatMap String.utf8EncodeChar).getLast?.any test = cs.getLast?.any holds := by
  rcases List.eq_nil_or_concat cs with rfl | ⟨front, c, rfl⟩
  · rfl
  · rcases List.eq_nil_or_concat (String.utf8EncodeChar c) with hnil | ⟨bytes, b, hbytes⟩
    · exact absurd hnil (utf8EncodeChar_ne_nil c)
    · have hlast := h c b (by simp [hbytes])
      simp [List.flatMap_append, hbytes, hlast]

end Text.TellsOf

/-! ## Labels -/

namespace Name

/-- A character inside a label. -/
def isLabelChar (c : Char) : Bool := isAlnum c || c == '-'

/-- The code points of lower-case letters and digits. -/
theorem isAlnum_iff {c : Char} :
    isAlnum c = true ↔ 97 ≤ c.toNat ∧ c.toNat ≤ 122 ∨ 48 ≤ c.toNat ∧ c.toNat ≤ 57 := by
  simp [isAlnum, Char.le_def, UInt32.le_iff_toNat_le]

theorem isAlnumByte_iff {b : UInt8} :
    isAlnumByte b = true ↔ 97 ≤ b.toNat ∧ b.toNat ≤ 122 ∨ 48 ≤ b.toNat ∧ b.toNat ≤ 57 := by
  simp [isAlnumByte, UInt8.le_iff_toNat_le]

theorem tellsOf_isAlnum : Text.TellsOf isAlnumByte isAlnum := by
  intro c b hb
  rw [Bool.eq_iff_iff, isAlnumByte_iff, isAlnum_iff]
  rcases Text.mem_utf8EncodeChar hb with hsame | hbeyond <;> omega

theorem tellsOf_isLabelChar :
    Text.TellsOf (fun b => isAlnumByte b || b == 0x2D) isLabelChar := by
  intro c b hb
  have hhyphen : (b == 0x2D) = (c == '-') := by
    rw [Bool.eq_iff_iff, beq_iff_eq, beq_iff_eq, ← UInt8.toNat_inj, ← Char.toNat_inj]
    change b.toNat = 45 ↔ c.toNat = 45
    rcases Text.mem_utf8EncodeChar hb with hsame | hbeyond <;> omega
  change (isAlnumByte b || b == 0x2D) = isLabelChar c
  rw [tellsOf_isAlnum c b hb, hhyphen, isLabelChar]

/-- The bytes of a run of characters are those of a label exactly if the characters are the ones of
a label: letters, digits and hyphens, with no hyphen at either end. -/
theorem isLabel_eq (cs : List Char) :
    isLabel cs = (cs.all isLabelChar && cs.head?.any isAlnum && cs.getLast?.any isAlnum) := by
  have hbytes : (String.ofList cs).toUTF8.data.toList = cs.flatMap String.utf8EncodeChar := by
    simp [List.utf8Encode]
  rw [isLabel, hbytes, isLabelBytes, tellsOf_isAlnum.any_head?, tellsOf_isAlnum.any_getLast?,
    tellsOf_isLabelChar.all_eq, Bool.and_comm, Bool.and_assoc]

end Name

end TaskEngine
