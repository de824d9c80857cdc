import TaskEngine.Proofs.Selector
import Mathlib.Computability.Language

/-!
# The grammar of resource names

Names are recognised by cutting a text at its dots and looking at each part. The names themselves
are those of a grammar:

    subdomain = label ('.' label)*
    label     = alnum ((alnum | '-')* alnum)?
    alnum     = 'a' - 'z' | '0' - '9'

Here the grammar is a language, and the recogniser, whatever builds a name from a text and the
reader of names in JSON are shown to accept its words of at most 253 bytes and nothing else.
-/

namespace TaskEngine

namespace Text

/-! ## Cutting at every separator -/

/-- Parts without separators come back when each but the first stands behind a separator. -/
theorem splitAll_flatMap {separator : Char} {first : List Char} {rest : List (List Char)}
    (hfirst : separator ∉ first) (hrest : ∀ part ∈ rest, separator ∉ part) :
    splitAll separator (first ++ rest.flatMap (separator :: ·)) = first :: rest := by
  induction rest generalizing first with
  | nil => rw [List.flatMap_nil, List.append_nil, splitAll_of_not_mem hfirst]
  | cons part rest ih =>
    obtain ⟨hpart, hrest⟩ := List.forall_mem_cons.mp hrest
    rw [List.flatMap_cons, List.cons_append, splitAll_append hfirst, ih hpart hrest]

/-- A text is made of its parts, each but the first behind a separator. -/
theorem exists_splitAll (separator : Char) (cs : List Char) :
    ∃ first rest, splitAll separator cs = first :: rest ∧
      cs = first ++ rest.flatMap (separator :: ·) := by
  induction cs with
  | nil => exact ⟨[], [], rfl, rfl⟩
  | cons c cs ih =>
    obtain ⟨first, rest, hsplit, hcs⟩ := ih
    rw [splitAll, hsplit]
    by_cases hc : c = separator
    · refine ⟨[], first :: rest, if_pos hc, ?_⟩
      rw [List.nil_append, List.flatMap_cons, List.cons_append, ← hcs, hc]
    · refine ⟨c :: first, rest, if_neg hc, ?_⟩
      rw [List.cons_append, ← hcs]

end Text

namespace Name

open scoped Computability

/-- The words of one letter. -/
def letters (p : Char → Prop) : Language Char := {word | ∃ c, p c ∧ word = [c]}

/-- A lower-case letter or a digit. -/
def alnum : Language Char := letters fun c => ('a' ≤ c ∧ c ≤ 'z') ∨ ('0' ≤ c ∧ c ≤ '9')

/-- A hyphen. -/
def hyphen : Language Char := letters (· = '-')

/-- A dot. -/
def dot : Language Char := letters (· = '.')

/-- Letters, digits and hyphens, with no hyphen at either end. -/
def label : Language Char := alnum * (1 + (alnum + hyphen)∗ * alnum)

/-- Labels with dots between them. -/
def subdomain : Language Char := label * (dot * label)∗

/-- The words of one letter, one after the other, are the words of such letters. -/
theorem mem_kstar_letters {p : Char → Prop} {word : List Char} :
    word ∈ (letters p)∗ ↔ ∀ c ∈ word, p c := by
  rw [Language.mem_kstar]
  constructor
  · rintro ⟨parts, rfl, hparts⟩ c hc
    obtain ⟨part, hpart, hc⟩ := List.mem_flatten.mp hc
    obtain ⟨d, hd, rfl⟩ := hparts part hpart
    rwa [List.mem_singleton.mp hc]
  · intro h
    refine ⟨word.map ([·]), by rw [← List.flatMap_def, List.flatMap_singleton'], ?_⟩
    intro part hpart
    obtain ⟨c, hc, rfl⟩ := List.mem_map.mp hpart
    exact ⟨c, h c hc, rfl⟩

theorem mem_alnum {word : List Char} : word ∈ alnum ↔ ∃ c, isAlnum c = true ∧ word = [c] := by
  simp only [isAlnum, Bool.or_eq_true, Bool.and_eq_true, decide_eq_true_eq]
  rfl

/-- The inner characters of a label. -/
theorem alnum_add_hyphen : alnum + hyphen = letters (isLabelChar · = true) := by
  ext word
  rw [Language.mem_add, mem_alnum]
  constructor
  · rintro (⟨c, hc, rfl⟩ | ⟨c, rfl, rfl⟩)
    · exact ⟨c, by simp [isLabelChar, hc], rfl⟩
    · exact ⟨'-', by decide, rfl⟩
  · rintro ⟨c, hc, rfl⟩
    rcases Bool.or_eq_true_iff.mp hc with halnum | hhyphen
    · exact .inl ⟨c, halnum, rfl⟩
    · exact .inr ⟨c, beq_iff_eq.mp hhyphen, rfl⟩

/-- The test of a part is the one for words of the grammar. -/
theorem mem_label {word : List Char} : word ∈ label ↔ isLabel word = true := by
  unfold label
  simp only [isLabel_eq, Bool.and_eq_true, Language.mem_mul, Language.mem_add, Language.mem_one,
    mem_alnum, alnum_add_hyphen, mem_kstar_letters]
  constructor
  · rintro ⟨_, ⟨c, hc, rfl⟩, _, rfl | ⟨inner, hinner, _, ⟨d, hd, rfl⟩, rfl⟩, rfl⟩
    · simp [isLabelChar, hc]
    · have hall : inner.all isLabelChar = true := List.all_eq_true.mpr hinner
      have hlast : (c :: (inner ++ [d])).getLast? = some d := by
        rw [← List.cons_append, List.getLast?_concat]
      simp [isLabelChar, hc, hd, hall, hlast]
  · rintro ⟨⟨hchars, hfirst⟩, hlast⟩
    obtain ⟨c, rest, rfl⟩ : ∃ c rest, word = c :: rest := by
      cases word with
      | nil => cases hfirst
      | cons c rest => exact ⟨c, rest, rfl⟩
    refine ⟨[c], ⟨c, hfirst, rfl⟩, rest, ?_, rfl⟩
    rcases List.eq_nil_or_concat rest with rfl | ⟨inner, d, rfl⟩
    · exact .inl rfl
    · refine .inr ⟨inner, fun x hx => List.all_eq_true.mp hchars x (by simp [hx]), [d],
        ⟨d, ?_, rfl⟩, by simp⟩
      simpa [List.getLast?_cons] using hlast

theorem dot_notMem_of_mem_label {word : List Char} (h : word ∈ label) : '.' ∉ word := by
  rw [mem_label, isLabel_eq, Bool.and_eq_true, Bool.and_eq_true] at h
  intro hdot
  exact absurd (List.all_eq_true.mp h.1.1 _ hdot) (by decide)

/-- A repetition of labels behind dots. -/
theorem mem_kstar_dot_label {word : List Char} :
    word ∈ (dot * label)∗ ↔
      ∃ parts : List (List Char), (∀ part ∈ parts, part ∈ label) ∧
        word = parts.flatMap ('.' :: ·) := by
  rw [Language.mem_kstar]
  constructor
  · rintro ⟨pieces, rfl, hpieces⟩
    induction pieces with
    | nil => exact ⟨[], by simp, rfl⟩
    | cons piece pieces ih =>
      obtain ⟨hpiece, hpieces⟩ := List.forall_mem_cons.mp hpieces
      obtain ⟨parts, hparts, heq⟩ := ih hpieces
      obtain ⟨_, ⟨c, rfl, rfl⟩, part, hpart, rfl⟩ := Language.mem_mul.mp hpiece
      refine ⟨part :: parts, List.forall_mem_cons.mpr ⟨hpart, hparts⟩, ?_⟩
      rw [List.flatten_cons, heq]
      rfl
  · rintro ⟨parts, hparts, rfl⟩
    refine ⟨parts.map ('.' :: ·), List.flatMap_def .., ?_⟩
    intro piece hpiece
    obtain ⟨part, hpart, rfl⟩ := List.mem_map.mp hpiece
    exact Language.mem_mul.mpr ⟨['.'], ⟨'.', rfl, rfl⟩, part, hparts part hpart, rfl⟩

/-- Cutting at the dots recognises the labels with dots between them. -/
theorem mem_subdomain {word : List Char} :
    word ∈ subdomain ↔ (Text.splitAll '.' word).all isLabel = true := by
  unfold subdomain
  rw [Language.mem_mul, List.all_eq_true]
  constructor
  · rintro ⟨first, hfirst, tail, htail, rfl⟩
    obtain ⟨rest, hrest, rfl⟩ := mem_kstar_dot_label.mp htail
    rw [Text.splitAll_flatMap (dot_notMem_of_mem_label hfirst)
      fun part hpart => dot_notMem_of_mem_label (hrest part hpart)]
    exact fun part hpart => mem_label.mp ((List.forall_mem_cons.mpr ⟨hfirst, hrest⟩) part hpart)
  · intro h
    obtain ⟨first, rest, hsplit, hword⟩ := Text.exists_splitAll '.' word
    rw [hsplit] at h
    obtain ⟨hfirst, hrest⟩ := List.forall_mem_cons.mp h
    exact ⟨first, mem_label.mpr hfirst, _,
      mem_kstar_dot_label.mpr ⟨rest, fun part hpart => mem_label.mpr (hrest part hpart), rfl⟩,
      hword.symm⟩

/-- A text that is a name: a word of the grammar that is not too long. -/
def IsSubdomain (text : String) : Prop := text.utf8ByteSize ≤ 253 ∧ text.toList ∈ subdomain

theorem isLegal_iff {text : String} : isLegal text = true ↔ IsSubdomain text := by
  rw [isLegal, Bool.and_eq_true, decide_eq_true_eq, IsSubdomain, mem_subdomain]
  rfl

end Name

namespace Name

/-- A comma, an equals sign, a slash, a blank or an upper-case letter: inside a name it would be
taken for a part of the selector or of the path around it. -/
def IsSpecial (c : Char) : Prop :=
  c = ',' ∨ c = '=' ∨ c = '/' ∨ Text.isBlankChar c = true ∨ c.isUpper = true

instance (c : Char) : Decidable (IsSpecial c) :=
  inferInstanceAs (Decidable (c = ',' ∨ c = '=' ∨ c = '/' ∨ _ ∨ _))

theorem not_isSpecial_of_isAlnum {c : Char} (h : isAlnum c = true) : ¬ IsSpecial c := by
  have hrange := isAlnum_iff.mp h
  rintro (rfl | rfl | rfl | hblank | hupper)
  · exact absurd h (by decide)
  · exact absurd h (by decide)
  · exact absurd h (by decide)
  · rw [(plain_of_isAlnum h).2] at hblank
    cases hblank
  · have hbounds : 'A'.val ≤ c.val ∧ c.val ≤ 'Z'.val := of_decide_eq_true hupper
    rw [UInt32.le_iff_toNat_le, UInt32.le_iff_toNat_le] at hbounds
    change 65 ≤ c.toNat ∧ c.toNat ≤ 90 at hbounds
    omega

/-- No special character stands in a name. -/
theorem IsSubdomain.not_isSpecial {text : String} (h : IsSubdomain text) {c : Char}
    (hc : c ∈ text.toList) : ¬ IsSpecial c := by
  rcases of_mem_of_isLegal (isLegal_iff.mpr h) hc with halnum | rfl | rfl
  · exact not_isSpecial_of_isAlnum halnum
  · decide
  · decide

end Name

namespace ResourceName

open Name

/-- A name is built from a word of the grammar, and the text is the one that was given. -/
theorem ofText_eq_ok_iff {text : String} {name : ResourceName} :
    ofText text = .ok name ↔ IsSubdomain text ∧ name.text = text := by
  unfold ofText ofText?
  rw [← isLegal_iff]
  by_cases h : isLegal text = true
  · rw [dif_pos h]
    constructor
    · intro hname
      cases hname
      exact ⟨h, rfl⟩
    · rintro ⟨-, rfl⟩
      rfl
  · rw [dif_neg h]
    constructor
    · intro hname
      cases hname
    · rintro ⟨hlegal, -⟩
      exact absurd hlegal h

/-- Any other text is handed back in the error. -/
theorem ofText_eq_error {text : String} (h : ¬ IsSubdomain text) :
    ofText text = .error (.invalidName text) := by
  unfold ofText ofText?
  rw [dif_neg (isLegal_iff.not.mpr h)]

/-- The reader of names takes the strings that are words of the grammar. -/
theorem decode_eq_ok_iff {j : Json} {name : ResourceName} :
    decode j = .ok name ↔ ∃ text, j = .str text ∧ IsSubdomain text ∧ name.text = text := by
  cases j with
  | str text =>
    have hdecode : decode (.str text) = (ofText text).mapError fun e => .refused e.message := rfl
    simp only [hdecode, Json.str.injEq, exists_eq_left', ← ofText_eq_ok_iff]
    cases ofText text with
    | ok other => simp [Except.mapError]
    | error e => simp [Except.mapError]
  | null | bool | num | arr | obj =>
    constructor
    · intro h
      cases h
    · rintro ⟨text, htext, -⟩
      cases htext

/-- The names are the words of the grammar that are at most 253 bytes long: the recogniser, the
check of a definition, the constructor and the reader in JSON all take these texts and no others.
None of the characters that selectors and object paths rely on stands in one of them. -/
theorem names_eq_subdomains :
    (∀ text, isLegal text = true ↔ IsSubdomain text) ∧
    (∀ text, demand text = .ok () ↔ IsSubdomain text) ∧
    (∀ text name, ofText text = .ok name ↔ IsSubdomain text ∧ name.text = text) ∧
    (∀ text, ¬ IsSubdomain text → ofText text = .error (.invalidName text)) ∧
    (∀ j name, decode j = .ok name ↔
      ∃ text, j = .str text ∧ IsSubdomain text ∧ name.text = text) ∧
    ∀ text, IsSubdomain text → ∀ c ∈ text.toList,
      (isAlnum c = true ∨ c = '-' ∨ c = '.') ∧ ¬ IsSpecial c := by
  refine ⟨fun _ => isLegal_iff, ?_, fun _ _ => ofText_eq_ok_iff, fun _ => ofText_eq_error,
    fun _ _ => decode_eq_ok_iff, fun _ h _ hc =>
      ⟨of_mem_of_isLegal (isLegal_iff.mpr h) hc, h.not_isSpecial hc⟩⟩
  intro text
  rw [demand, ← isLegal_iff]
  by_cases h : isLegal text = true <;> simp [h]

/-- A name of two labels is taken; with an upper-case letter and an underscore it is handed back. -/
theorem names_eq_subdomains_nightly :
    IsSubdomain "nightly-backup.v2" ∧ ¬ IsSpecial '-' ∧
      ofText "Nightly_Backup" = .error (.invalidName "Nightly_Backup") := by
  obtain ⟨hlegal, -, -, hrefused, -, hchars⟩ := names_eq_subdomains
  have hname : IsSubdomain "nightly-backup.v2" := (hlegal _).mp (by decide +kernel)
  refine ⟨hname, (hchars _ hname '-' (by decide)).2, hrefused _ ?_⟩
  rw [← hlegal]
  decide +kernel

end ResourceName

end TaskEngine
