import TaskEngine.Json.Printer
import TaskEngine.Proofs.Json.Number

/-!
# Layouts of JSON text

The compact and the indented text of a value differ in their blanks only. A layout says where the
blanks stand, and both texts are laid out by one. Numbers and strings are written without line ends,
so taking the line ends out of a text is taking them out of its layout.
-/

namespace TaskEngine.Json

open Text (hexDigit isPlainBlank)

/-- The blanks of a JSON text. -/
structure Layout where
  /-- What stands before an item, a field or a closing bracket at a depth. -/
  lead : Nat → List Char
  /-- What stands after a colon. -/
  gap : List Char

namespace Layout

/-- The layout of compact text. -/
def dense : Layout := ⟨fun _ => [], []⟩

/-- The layout of indented text. -/
def indented : Layout := ⟨newLine, [' ']⟩

/-- A layout without its line ends. -/
def unbroken (l : Layout) : Layout :=
  ⟨fun depth => (l.lead depth).filter (· ≠ '\n'), l.gap.filter (· ≠ '\n')⟩

/-- Whether a layout consists of blanks. -/
structure IsBlank (l : Layout) : Prop where
  lead : ∀ depth, ∀ c ∈ l.lead depth, isPlainBlank c = true
  gap : ∀ c ∈ l.gap, isPlainBlank c = true

theorem isBlank_dense : dense.IsBlank where
  lead _ c hc := by cases hc
  gap c hc := by cases hc

theorem isBlank_indented : indented.IsBlank where
  lead depth c hc := by
    rcases List.mem_cons.mp hc with rfl | hc
    · rfl
    · rw [List.eq_of_mem_replicate hc]
      rfl
  gap c hc := by
    rw [List.mem_singleton.mp hc]
    rfl

theorem IsBlank.unbroken {l : Layout} (h : l.IsBlank) : l.unbroken.IsBlank where
  lead depth c hc := h.lead depth c (List.mem_of_mem_filter hc)
  gap c hc := h.gap c (List.mem_of_mem_filter hc)

end Layout

mutual

/-- The text of a value in a layout. -/
def laidOut (l : Layout) (depth : Nat) : Json → List Char
  | .null => ['n', 'u', 'l', 'l']
  | .bool true => ['t', 'r', 'u', 'e']
  | .bool false => ['f', 'a', 'l', 's', 'e']
  | .num n => n.render.toList
  | .str s => quoteChars s
  | .arr [] => ['[', ']']
  | .arr (x :: rest) => '[' :: laidOutItems l (depth + 1) (x :: rest) ++ l.lead depth ++ [']']
  | .obj [] => ['\x7b', '\x7d']
  | .obj (x :: rest) =>
    '\x7b' :: laidOutFields l (depth + 1) (x :: rest) ++ l.lead depth ++ ['\x7d']

/-- The text of items in a layout. -/
def laidOutItems (l : Layout) (depth : Nat) : List Json → List Char
  | [] => []
  | [x] => l.lead depth ++ laidOut l depth x
  | x :: y :: rest =>
    l.lead depth ++ laidOut l depth x ++ ',' :: laidOutItems l depth (y :: rest)

/-- The text of fields in a layout. -/
def laidOutFields (l : Layout) (depth : Nat) : List (String × Json) → List Char
  | [] => []
  | [(k, x)] => l.lead depth ++ quoteChars k ++ ':' :: l.gap ++ laidOut l depth x
  | (k, x) :: y :: rest =>
    l.lead depth ++ quoteChars k ++ ':' :: l.gap ++ laidOut l depth x ++
      ',' :: laidOutFields l depth (y :: rest)

end

/-! ## The two texts -/

mutual

/-- Compact text is laid out without blanks. -/
theorem compactChars_eq (value : Json) (depth : Nat) :
    value.compactChars = laidOut .dense depth value := by
  match value with
  | .null | .bool true | .bool false | .num n | .str s | .arr [] | .obj [] => rfl
  | .arr (x :: rest) =>
    rw [compactChars, laidOut, compactItems_eq (x :: rest) (depth + 1)]
    simp [Layout.dense]
  | .obj (x :: rest) =>
    rw [compactChars, laidOut, compactFields_eq (x :: rest) (depth + 1)]
    simp [Layout.dense]

theorem compactItems_eq (items : List Json) (depth : Nat) :
    compactItems items = laidOutItems .dense depth items := by
  match items with
  | [] => rfl
  | [x] => rw [compactItems, laidOutItems, compactChars_eq x depth]; rfl
  | x :: y :: rest =>
    rw [compactItems, laidOutItems, compactChars_eq x depth, compactItems_eq (y :: rest) depth]
    rfl

theorem compactFields_eq (fields : List (String × Json)) (depth : Nat) :
    compactFields fields = laidOutFields .dense depth fields := by
  match fields with
  | [] => rfl
  | [(k, x)] =>
    rw [compactFields, laidOutFields, compactChars_eq x depth]
    simp [Layout.dense]
  | (k, x) :: y :: rest =>
    rw [compactFields, laidOutFields, compactChars_eq x depth, compactFields_eq (y :: rest) depth]
    simp [Layout.dense]

end

mutual

/-- Indented text is laid out in lines. -/
theorem prettyChars_eq (value : Json) (depth : Nat) :
    value.prettyChars depth = laidOut .indented depth value := by
  match value with
  | .null | .bool true | .bool false | .num n | .str s | .arr [] | .obj [] => rfl
  | .arr (x :: rest) =>
    rw [prettyChars, laidOut, prettyItems_eq (x :: rest) (depth + 1)]
    rfl
  | .obj (x :: rest) =>
    rw [prettyChars, laidOut, prettyFields_eq (x :: rest) (depth + 1)]
    rfl

theorem prettyItems_eq (items : List Json) (depth : Nat) :
    prettyItems depth items = laidOutItems .indented depth items := by
  match items with
  | [] => rfl
  | [x] => rw [prettyItems, laidOutItems, prettyChars_eq x depth]; rfl
  | x :: y :: rest =>
    rw [prettyItems, laidOutItems, prettyChars_eq x depth, prettyItems_eq (y :: rest) depth]
    rfl

theorem prettyFields_eq (fields : List (String × Json)) (depth : Nat) :
    prettyFields depth fields = laidOutFields .indented depth fields := by
  match fields with
  | [] => rfl
  | [(k, x)] =>
    rw [prettyFields, laidOutFields, prettyChars_eq x depth]
    simp [Layout.indented]
  | (k, x) :: y :: rest =>
    rw [prettyFields, laidOutFields, prettyChars_eq x depth, prettyFields_eq (y :: rest) depth]
    simp [Layout.indented]

end

/-! ## Line ends -/

/-- A text without line ends is left as it is when they are taken out. -/
theorem filter_eq_self_of_not_mem {cs : List Char} (h : '\n' ∉ cs) :
    cs.filter (· ≠ '\n') = cs := by
  refine List.filter_eq_self.mpr fun c hc => ?_
  rw [decide_eq_true_eq]
  rintro rfl
  exact h hc

/-- A line end inside a string is escaped. -/
theorem not_mem_escapeChar (c : Char) : '\n' ∉ escapeChar c := by
  have hdigit : ∀ n < 32, '\n' ≠ hexDigit (n / 16) ∧ '\n' ≠ hexDigit (n % 16) := by decide
  unfold escapeChar
  split
  case h_8 =>
    rename_i hline _ _
    split
    · rename_i hcontrol
      have hdigits := hdigit c.toNat hcontrol
      simp [hdigits.1, hdigits.2]
    · rw [List.mem_singleton]
      exact fun h => hline h.symm
  all_goals decide

/-- Strings are written in one line. -/
theorem not_mem_quoteChars (text : String) : '\n' ∉ quoteChars text := by
  simp only [quoteChars, List.cons_append, List.mem_cons, List.mem_append, List.mem_flatMap,
    List.not_mem_nil, or_false, not_or, not_exists, not_and]
  exact ⟨by decide, fun c _ => not_mem_escapeChar c, by decide⟩

/-- Numbers are written in one line. -/
theorem not_mem_render (n : JsonNumber) : '\n' ∉ n.render.toList := by
  have hwell := n.wellFormed_literal
  have hdigits : ∀ {cs : List Char}, (∀ c ∈ cs, c.isDigit = true) → '\n' ∉ cs :=
    fun h hmem => absurd (h '\n' hmem) (by decide)
  have hsign : ∀ negative, '\n' ∉ JsonNumber.Literal.signText negative := by decide
  rw [n.render_eq, JsonNumber.Literal.text]
  simp only [List.mem_append, not_or]
  refine ⟨hsign _, hdigits hwell.whole, ?_, ?_⟩
  · cases hfraction : n.literal.fraction with
    | nil => simp [JsonNumber.Literal.fractionText]
    | cons d digits =>
      have hfree := hdigits hwell.fraction
      rw [hfraction] at hfree
      simpa [JsonNumber.Literal.fractionText] using hfree
  · cases hexponent : n.literal.exponent with
    | none => simp [JsonNumber.Literal.exponentText]
    | some exponent =>
      obtain ⟨minus, digits⟩ := exponent
      have hfree := hdigits (hwell.exponent minus digits hexponent).2
      simp [JsonNumber.Literal.exponentText, hsign, hfree]

mutual

/-- Taking the line ends out of a text is taking them out of its layout. -/
theorem filter_laidOut (l : Layout) (depth : Nat) (value : Json) :
    (laidOut l depth value).filter (· ≠ '\n') = laidOut l.unbroken depth value := by
  match value with
  | .null | .bool true | .bool false | .arr [] | .obj [] => rfl
  | .num n => exact filter_eq_self_of_not_mem (not_mem_render n)
  | .str s => exact filter_eq_self_of_not_mem (not_mem_quoteChars s)
  | .arr (x :: rest) =>
    rw [laidOut, laidOut, List.filter_append, List.filter_append, List.filter_cons_of_pos (by decide),
      filter_laidOutItems l (depth + 1) (x :: rest)]
    rfl
  | .obj (x :: rest) =>
    rw [laidOut, laidOut, List.filter_append, List.filter_append, List.filter_cons_of_pos (by decide),
      filter_laidOutFields l (depth + 1) (x :: rest)]
    rfl

theorem filter_laidOutItems (l : Layout) (depth : Nat) (items : List Json) :
    (laidOutItems l depth items).filter (· ≠ '\n') = laidOutItems l.unbroken depth items := by
  match items with
  | [] => rfl
  | [x] =>
    rw [laidOutItems, laidOutItems, List.filter_append, filter_laidOut l depth x]
    rfl
  | x :: y :: rest =>
    rw [laidOutItems, laidOutItems, List.filter_append, List.filter_append,
      List.filter_cons_of_pos (by decide), filter_laidOut l depth x,
      filter_laidOutItems l depth (y :: rest)]
    rfl

theorem filter_laidOutFields (l : Layout) (depth : Nat) (fields : List (String × Json)) :
    (laidOutFields l depth fields).filter (· ≠ '\n') = laidOutFields l.unbroken depth fields := by
  have hname := fun k => filter_eq_self_of_not_mem (not_mem_quoteChars k)
  match fields with
  | [] => rfl
  | [(k, x)] =>
    rw [laidOutFields, laidOutFields]
    simp only [List.filter_append, hname k, filter_laidOut l depth x]
    rfl
  | (k, x) :: y :: rest =>
    rw [laidOutFields, laidOutFields]
    have hcomma : (',' :: laidOutFields l depth (y :: rest)).filter (· ≠ '\n') =
        ',' :: laidOutFields l.unbroken depth (y :: rest) := by
      rw [List.filter_cons_of_pos (by decide), filter_laidOutFields l depth (y :: rest)]
    simp only [List.filter_append, hname k, filter_laidOut l depth x, hcomma]
    rfl

end

end TaskEngine.Json
