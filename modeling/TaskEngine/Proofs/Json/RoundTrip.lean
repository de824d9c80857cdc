import TaskEngine.Proofs.Json.Layout
import TaskEngine.Proofs.Json.Text

/-!
# JSON text read back

The text of a value is read back as that value, up to the numbers, which are read as their own texts
are, and up to the order of fields; where it has blanks does not matter. A value nests no deeper than
the reader goes, and the fuel of the reader is twice the length of the text, so the reader gets to
the end of it.
-/

namespace TaskEngine.Json

open Text (isPlainBlank skipBlanks)

/-! ## What is read back -/

mutual

/-- The value as which the text of a value is read. -/
def reread : Json → Json
  | .num n => .num n.reread
  | .arr items => .arr (rereadItems items)
  | .obj fields => object (rereadFields fields)
  | .null => .null
  | .bool b => .bool b
  | .str s => .str s

/-- The items as which items are read. -/
def rereadItems : List Json → List Json
  | [] => []
  | x :: rest => x.reread :: rereadItems rest

/-- The fields as which fields are read. -/
def rereadFields : List (String × Json) → List (String × Json)
  | [] => []
  | (k, x) :: rest => (k, x.reread) :: rereadFields rest

end

mutual

/-- Whether all integers in a value are of 64 bits. -/
def Fits : Json → Prop
  | .num n => n.Fits
  | .arr items => FitsItems items
  | .obj fields => FitsFields fields
  | _ => True

/-- Whether all integers in items are of 64 bits. -/
def FitsItems : List Json → Prop
  | [] => True
  | x :: rest => x.Fits ∧ FitsItems rest

/-- Whether all integers in fields are of 64 bits. -/
def FitsFields : List (String × Json) → Prop
  | [] => True
  | (_, x) :: rest => x.Fits ∧ FitsFields rest

end

/-- Items are read one by one. -/
theorem rereadItems_eq (items : List Json) : rereadItems items = items.map reread := by
  induction items with
  | nil => rfl
  | cons x rest ih => rw [rereadItems, ih, List.map_cons]

/-- Items fit one by one. -/
theorem fitsItems_iff {items : List Json} : FitsItems items ↔ ∀ x ∈ items, x.Fits := by
  induction items with
  | nil => simp [FitsItems]
  | cons x rest ih => rw [FitsItems, ih, List.forall_mem_cons]

/-- Whether the compact text of a value, if it is read at all, is read as that value. It is not if
fields are out of order, or if a number is rounded when it is read. -/
def ReadsBack (value : Json) : Prop := ∀ again, read? value.compact = some again → again = value

/-- A value that was read back is read back. -/
theorem ReadsBack.of_read? {value : Json} (h : read? value.compact = some value) :
    value.ReadsBack := by
  intro again hagain
  rw [h] at hagain
  exact (Option.some.inj hagain).symm

/-! ## First characters -/

/-- A character with which a value can start. -/
def Opens (c : Char) : Prop := isPlainBlank c = false ∧ c ≠ ']' ∧ c ≠ '\x7d'

instance : DecidablePred Opens := fun _ => inferInstanceAs (Decidable (_ ∧ _))

/-- Digits and signs start nothing but numbers. -/
theorem ne_of_numeral {c d : Char} (h : c.isDigit = true ∨ c = '-')
    (hd : d.isDigit = false ∧ d ≠ '-') : c ≠ d := by
  rintro rfl
  rcases h with hdigit | hsign
  · rw [hd.1] at hdigit
    cases hdigit
  · exact hd.2 hsign

/-- Digits and signs can start a value. -/
theorem opens_of_numeral {c : Char} (h : c.isDigit = true ∨ c = '-') : Opens c := by
  refine ⟨?_, ne_of_numeral h (by decide), ne_of_numeral h (by decide)⟩
  simp only [isPlainBlank, Bool.or_eq_false_iff, beq_eq_false_iff_ne]
  exact ⟨⟨⟨ne_of_numeral h (by decide), ne_of_numeral h (by decide)⟩,
    ne_of_numeral h (by decide)⟩, ne_of_numeral h (by decide)⟩

/-- A literal starts with a digit or a sign. -/
theorem exists_text_eq {l : JsonNumber.Literal} (h : l.WellFormed) :
    ∃ c tail, l.text = c :: tail ∧ (c.isDigit = true ∨ c = '-') := by
  obtain ⟨d, digits, hd⟩ := List.exists_cons_of_ne_nil h.nonempty
  cases hsign : l.negative with
  | true => exact ⟨'-', _, by rw [JsonNumber.Literal.text, hsign]; rfl, .inr rfl⟩
  | false =>
    refine ⟨d, _, by rw [JsonNumber.Literal.text, hsign, hd]; rfl, .inl ?_⟩
    exact h.whole d (hd ▸ List.mem_cons_self)

/-- The text of a value is not empty, and starts like one. -/
theorem exists_laidOut_eq (l : Layout) (level : Nat) (value : Json) :
    ∃ c tail, laidOut l level value = c :: tail ∧ Opens c := by
  match value with
  | .null => exact ⟨'n', _, by rw [laidOut], by decide⟩
  | .bool true => exact ⟨'t', _, by rw [laidOut], by decide⟩
  | .bool false => exact ⟨'f', _, by rw [laidOut], by decide⟩
  | .str s => exact ⟨'"', _, by rw [laidOut, quoteChars]; rfl, by decide⟩
  | .arr [] => exact ⟨'[', _, by rw [laidOut], by decide⟩
  | .arr (x :: rest) => exact ⟨'[', _, by rw [laidOut]; rfl, by decide⟩
  | .obj [] => exact ⟨'\x7b', _, by rw [laidOut], by decide⟩
  | .obj (x :: rest) => exact ⟨'\x7b', _, by rw [laidOut]; rfl, by decide⟩
  | .num n =>
    obtain ⟨c, tail, htext, hc⟩ := exists_text_eq n.wellFormed_literal
    exact ⟨c, tail, by rw [laidOut, n.render_eq, htext], opens_of_numeral hc⟩

/-- The text of items starts with blanks, and then like the first of them. -/
theorem exists_laidOutItems_eq (l : Layout) (level : Nat) {items : List Json} (h : items ≠ []) :
    ∃ c tail, laidOutItems l level items = l.lead level ++ c :: tail ∧ Opens c := by
  match items with
  | [x] =>
    obtain ⟨c, tail, htext, hc⟩ := exists_laidOut_eq l level x
    exact ⟨c, tail, by rw [laidOutItems, htext], hc⟩
  | x :: y :: rest =>
    obtain ⟨c, tail, htext, hc⟩ := exists_laidOut_eq l level x
    exact ⟨c, _, by rw [laidOutItems, htext, List.append_assoc]; rfl, hc⟩

/-- The text of fields starts with blanks, and then with the quote of the first name. -/
theorem exists_laidOutFields_eq (l : Layout) (level : Nat) {fields : List (String × Json)}
    (h : fields ≠ []) : ∃ tail, laidOutFields l level fields = l.lead level ++ '"' :: tail := by
  match fields with
  | [(k, x)] =>
    exact ⟨_, by rw [laidOutFields, quoteChars, List.append_assoc, List.append_assoc]; rfl⟩
  | (k, x) :: y :: rest =>
    exact ⟨_, by
      rw [laidOutFields, quoteChars, List.append_assoc, List.append_assoc, List.append_assoc]; rfl⟩

/-! ## Blanks -/

/-- A text that does not start with a blank has no leading blanks. -/
theorem skipBlanks_cons {c : Char} (h : isPlainBlank c = false) (rest : List Char) :
    skipBlanks (c :: rest) = c :: rest := by
  rw [skipBlanks, List.dropWhile_cons_of_neg (by simp [h])]

/-- Leading blanks are left out. -/
theorem skipBlanks_append {blanks : List Char} (h : ∀ c ∈ blanks, isPlainBlank c = true)
    (rest : List Char) : skipBlanks (blanks ++ rest) = skipBlanks rest := by
  rw [skipBlanks, skipBlanks, List.dropWhile_append_of_pos h]

/-- Blanks in front of a value do not count. -/
theorem readValue_append {blanks : List Char} (h : ∀ c ∈ blanks, isPlainBlank c = true)
    (fuel depth : Nat) (cs : List Char) :
    readValue fuel depth (blanks ++ cs) = readValue fuel depth cs := by
  cases fuel with
  | zero => rfl
  | succ fuel => rw [readValue, readValue, skipBlanks_append h]

/-- Blanks in front of fields do not count. -/
theorem readFields_append {blanks : List Char} (h : ∀ c ∈ blanks, isPlainBlank c = true)
    (fuel depth : Nat) (cs : List Char) :
    readFields fuel depth (blanks ++ cs) = readFields fuel depth cs := by
  cases fuel with
  | zero => rfl
  | succ fuel => rw [readFields, readFields, skipBlanks_append h]

/-- What may follow a value inside an array or an object ends a number. -/
theorem endsNumber_append {blanks : List Char} (h : ∀ c ∈ blanks, isPlainBlank c = true) {c : Char}
    (hc : c = ',' ∨ c = ']' ∨ c = '\x7d') (rest : List Char) :
    EndsNumber (blanks ++ c :: rest) := by
  rintro d hd
  cases blanks with
  | nil =>
    cases hd
    rcases hc with rfl | rfl | rfl <;> decide
  | cons b blanks =>
    cases hd
    have hblank := h d List.mem_cons_self
    simp only [isPlainBlank, Bool.or_eq_true, beq_iff_eq] at hblank
    rcases hblank with ((rfl | rfl) | rfl) | rfl <;> decide

/-- A comma ends a number. -/
theorem endsNumber_comma (rest : List Char) : EndsNumber (',' :: rest) := by
  rintro d hd
  cases hd
  decide

/-! ## Values -/

/-- A number is read back in front of what ends it. -/
theorem readValue_num {n : JsonNumber} (h : n.Fits) (fuel depth : Nat) {rest : List Char}
    (hrest : EndsNumber rest) :
    readValue (fuel + 1) depth (n.render.toList ++ rest) = some (.num n.reread, rest) := by
  have hread := n.readNumber_render h hrest
  obtain ⟨c, tail, htext, hc⟩ := exists_text_eq n.wellFormed_literal
  rw [n.render_eq, htext, List.cons_append] at hread ⊢
  rw [readValue, skipBlanks_cons (opens_of_numeral hc).1]
  -- No other value starts with a digit or a sign.
  split <;> rename_i heq
  case h_7 => rw [hread]; rfl
  all_goals
    refine absurd (List.cons.inj heq).1 (ne_of_numeral hc (by decide))

/-- A string is read back. -/
theorem readValue_str (s : String) (fuel depth : Nat) (rest : List Char) :
    readValue (fuel + 1) depth (quoteChars s ++ rest) = some (.str s, rest) := by
  obtain ⟨tail, htext, hread⟩ := quoteChars_append s rest
  rw [htext, readValue, skipBlanks_cons (by decide)]
  simp only [hread, Option.map_some, String.ofList_toList]

variable {l : Layout} (hblank : l.IsBlank)

include hblank

/-- An array that is not empty is read as its items are. -/
theorem readValue_arr {x : Json} {items : List Json} {fuel depth level : Nat} {rest : List Char} :
    readValue (fuel + 1) (depth + 1) (laidOut l level (.arr (x :: items)) ++ rest) =
      (readItems fuel depth
        (laidOutItems l (level + 1) (x :: items) ++ (l.lead level ++ ']' :: rest))).map
          fun (items, rest) => (.arr items, rest) := by
  obtain ⟨c, tail, htext, hopens, hclosing, -⟩ :=
    exists_laidOutItems_eq l (level + 1) (List.cons_ne_nil x items)
  have hshape : laidOut l level (.arr (x :: items)) ++ rest =
      '[' :: (laidOutItems l (level + 1) (x :: items) ++ (l.lead level ++ ']' :: rest)) := by
    rw [laidOut]
    simp
  rw [hshape, readValue, skipBlanks_cons (by decide)]
  rw [htext, List.append_assoc, List.cons_append]
  simp only [skipBlanks_append (hblank.lead (level + 1)), skipBlanks_cons hopens]
  split
  · rename_i heq
    exact absurd (List.cons.inj heq).1 hclosing
  · rfl

/-- An object that is not empty is read as its fields are. -/
theorem readValue_obj {field : String × Json} {fields : List (String × Json)}
    {fuel depth level : Nat} {rest : List Char} :
    readValue (fuel + 1) (depth + 1) (laidOut l level (.obj (field :: fields)) ++ rest) =
      (readFields fuel depth
        (laidOutFields l (level + 1) (field :: fields) ++ (l.lead level ++ '\x7d' :: rest))).map
          fun (fields, rest) => (object fields, rest) := by
  obtain ⟨tail, htext⟩ := exists_laidOutFields_eq l (level + 1) (List.cons_ne_nil field fields)
  have hshape : laidOut l level (.obj (field :: fields)) ++ rest = '\x7b' ::
      (laidOutFields l (level + 1) (field :: fields) ++ (l.lead level ++ '\x7d' :: rest)) := by
    rw [laidOut]
    simp
  rw [hshape, readValue, skipBlanks_cons (by decide)]
  rw [htext, List.append_assoc, List.cons_append]
  simp only [skipBlanks_append (hblank.lead (level + 1)), skipBlanks_cons (c := '"') (by decide)]
  rfl

/-- The last item is read back with the closing bracket. -/
theorem readItems_last {x again : Json} {fuel depth level : Nat} {closing rest : List Char}
    (hclosing : ∀ c ∈ closing, isPlainBlank c = true)
    (h : readValue fuel depth (laidOut l level x ++ (closing ++ ']' :: rest)) =
      some (again, closing ++ ']' :: rest)) :
    readItems (fuel + 1) depth (laidOutItems l level [x] ++ (closing ++ ']' :: rest)) =
      some ([again], rest) := by
  rw [laidOutItems, List.append_assoc, readItems, readValue_append (hblank.lead level), h]
  simp only [skipBlanks_append hclosing, skipBlanks_cons (c := ']') (by decide)]

/-- An item is read back in front of the others. -/
theorem readItems_next {x y again : Json} {items : List Json} {fuel depth level : Nat}
    {tail : List Char}
    (h : readValue fuel depth
      (laidOut l level x ++ ',' :: (laidOutItems l level (y :: items) ++ tail)) =
        some (again, ',' :: (laidOutItems l level (y :: items) ++ tail))) :
    readItems (fuel + 1) depth (laidOutItems l level (x :: y :: items) ++ tail) =
      (readItems fuel depth (laidOutItems l level (y :: items) ++ tail)).map
        fun (agains, rest) => (again :: agains, rest) := by
  rw [laidOutItems, List.append_assoc, List.append_assoc, List.cons_append, readItems,
    readValue_append (hblank.lead level), h]
  simp only [skipBlanks_cons (c := ',') (by decide)]

omit hblank in
/-- What is read after a field. -/
def readFieldsAfter (fuel depth : Nat) (field : String × Json) (cs : List Char) :
    Option (List (String × Json) × List Char) :=
  match skipBlanks cs with
  | ',' :: rest => (readFields fuel depth rest).map fun (fields, rest) => (field :: fields, rest)
  | '\x7d' :: rest => some ([field], rest)
  | _ => none

/-- A field is read back in front of what follows it. -/
theorem readFields_eq (k : String) {x again : Json} {fuel depth level : Nat} {rest : List Char}
    (h : readValue fuel depth (laidOut l level x ++ rest) = some (again, rest)) :
    readFields (fuel + 1) depth
      (l.lead level ++ quoteChars k ++ ':' :: l.gap ++ laidOut l level x ++ rest) =
        readFieldsAfter fuel depth (k, again) rest := by
  obtain ⟨tail, htext, hread⟩ := quoteChars_append k (':' :: (l.gap ++ (laidOut l level x ++ rest)))
  have hshape : l.lead level ++ quoteChars k ++ ':' :: l.gap ++ laidOut l level x ++ rest =
      l.lead level ++ (quoteChars k ++ ':' :: (l.gap ++ (laidOut l level x ++ rest))) := by
    simp
  rw [hshape, readFields_append (hblank.lead level), htext, readFields, skipBlanks_cons (by decide)]
  simp only [hread, skipBlanks_cons (c := ':') (by decide), readValue_append hblank.gap, h,
    String.ofList_toList]
  rfl

/-- The last field is read back with the closing brace. -/
theorem readFields_last {k : String} {x again : Json} {fuel depth level : Nat}
    {closing rest : List Char} (hclosing : ∀ c ∈ closing, isPlainBlank c = true)
    (h : readValue fuel depth (laidOut l level x ++ (closing ++ '\x7d' :: rest)) =
      some (again, closing ++ '\x7d' :: rest)) :
    readFields (fuel + 1) depth (laidOutFields l level [(k, x)] ++ (closing ++ '\x7d' :: rest)) =
      some ([(k, again)], rest) := by
  rw [laidOutFields, readFields_eq hblank k h, readFieldsAfter]
  simp only [skipBlanks_append hclosing, skipBlanks_cons (c := '\x7d') (by decide)]

/-- A field is read back in front of the others. -/
theorem readFields_next {k : String} {x again : Json} {y : String × Json}
    {fields : List (String × Json)} {fuel depth level : Nat} {tail : List Char}
    (h : readValue fuel depth
      (laidOut l level x ++ ',' :: (laidOutFields l level (y :: fields) ++ tail)) =
        some (again, ',' :: (laidOutFields l level (y :: fields) ++ tail))) :
    readFields (fuel + 1) depth (laidOutFields l level ((k, x) :: y :: fields) ++ tail) =
      (readFields fuel depth (laidOutFields l level (y :: fields) ++ tail)).map
        fun (agains, rest) => ((k, again) :: agains, rest) := by
  rw [laidOutFields, List.append_assoc, List.cons_append, readFields_eq hblank k h, readFieldsAfter]
  simp only [skipBlanks_cons (c := ',') (by decide)]

mutual

/-- A value is read back from its text. -/
theorem readValue_laidOut (value : Json) {fuel depth level : Nat} {rest : List Char}
    (hfits : value.Fits) (hdepth : value.depth ≤ depth)
    (hfuel : 2 * (laidOut l level value).length ≤ fuel + 1) (hrest : EndsNumber rest) :
    readValue fuel depth (laidOut l level value ++ rest) = some (value.reread, rest) := by
  obtain ⟨c, tail, htext, -⟩ := exists_laidOut_eq l level value
  have hlength : 0 < (laidOut l level value).length := by
    rw [htext]
    exact Nat.succ_pos _
  obtain ⟨fuel, rfl⟩ := Nat.exists_eq_add_of_le' (show 1 ≤ fuel by omega)
  match value with
  | .null => rfl
  | .bool true => rfl
  | .bool false => rfl
  | .num n => exact readValue_num hfits fuel depth hrest
  | .str s => exact readValue_str s fuel depth rest
  | .arr [] =>
    rw [Json.depth] at hdepth
    obtain ⟨depth, rfl⟩ := Nat.exists_eq_add_of_le' (show 1 ≤ depth by omega)
    rfl
  | .arr (x :: items) =>
    rw [Json.depth] at hdepth
    obtain ⟨depth, rfl⟩ := Nat.exists_eq_add_of_le' (show 1 ≤ depth by omega)
    rw [laidOut, List.length_append, List.length_append, List.length_cons] at hfuel
    rw [List.length_singleton] at hfuel
    rw [reread, readValue_arr hblank, readItems_laidOut (x :: items) (by simp) (hblank.lead level)
      hfits (by omega) (by omega)]
    rfl
  | .obj [] =>
    rw [Json.depth] at hdepth
    obtain ⟨depth, rfl⟩ := Nat.exists_eq_add_of_le' (show 1 ≤ depth by omega)
    rfl
  | .obj ((k, x) :: fields) =>
    rw [Json.depth] at hdepth
    obtain ⟨depth, rfl⟩ := Nat.exists_eq_add_of_le' (show 1 ≤ depth by omega)
    rw [laidOut, List.length_append, List.length_append, List.length_cons] at hfuel
    rw [List.length_singleton] at hfuel
    rw [reread, readValue_obj hblank, readFields_laidOut ((k, x) :: fields) (by simp)
      (hblank.lead level) hfits (by omega) (by omega)]
    rfl

/-- Items are read back from their text. -/
theorem readItems_laidOut (items : List Json) (hne : items ≠ []) {fuel depth level : Nat}
    {closing rest : List Char} (hclosing : ∀ c ∈ closing, isPlainBlank c = true)
    (hfits : FitsItems items) (hdepth : depthItems items ≤ depth)
    (hfuel : 2 * (laidOutItems l level items).length ≤ fuel) :
    readItems fuel depth (laidOutItems l level items ++ (closing ++ ']' :: rest)) =
      some (rereadItems items, rest) := by
  obtain ⟨c, tail, htext, -⟩ := exists_laidOutItems_eq l level hne
  have hlength : 0 < (laidOutItems l level items).length := by
    rw [htext, List.length_append, List.length_cons]
    omega
  obtain ⟨fuel, rfl⟩ := Nat.exists_eq_add_of_le' (show 1 ≤ fuel by omega)
  match items with
  | [x] =>
    rw [depthItems] at hdepth
    rw [laidOutItems, List.length_append] at hfuel
    exact readItems_last hblank hclosing (readValue_laidOut x hfits.1 (by omega) (by omega)
      (endsNumber_append hclosing (by simp) _))
  | x :: y :: items =>
    rw [depthItems] at hdepth
    rw [laidOutItems, List.length_append, List.length_append, List.length_cons] at hfuel
    rw [readItems_next hblank
        (readValue_laidOut x hfits.1 (by omega) (by omega) (endsNumber_comma _)),
      readItems_laidOut (y :: items) (by simp) hclosing hfits.2 (by omega) (by omega)]
    rfl

/-- Fields are read back from their text. -/
theorem readFields_laidOut (fields : List (String × Json)) (hne : fields ≠ [])
    {fuel depth level : Nat} {closing rest : List Char}
    (hclosing : ∀ c ∈ closing, isPlainBlank c = true) (hfits : FitsFields fields)
    (hdepth : depthFields fields ≤ depth)
    (hfuel : 2 * (laidOutFields l level fields).length ≤ fuel) :
    readFields fuel depth (laidOutFields l level fields ++ (closing ++ '\x7d' :: rest)) =
      some (rereadFields fields, rest) := by
  obtain ⟨tail, htext⟩ := exists_laidOutFields_eq l level hne
  have hlength : 0 < (laidOutFields l level fields).length := by
    rw [htext, List.length_append, List.length_cons]
    omega
  obtain ⟨fuel, rfl⟩ := Nat.exists_eq_add_of_le' (show 1 ≤ fuel by omega)
  match fields with
  | [(k, x)] =>
    rw [depthFields] at hdepth
    rw [laidOutFields] at hfuel
    simp only [List.length_append, List.length_cons] at hfuel
    exact readFields_last hblank hclosing (readValue_laidOut x hfits.1 (by omega) (by omega)
      (endsNumber_append hclosing (by simp) _))
  | (k, x) :: y :: fields =>
    rw [depthFields] at hdepth
    rw [laidOutFields] at hfuel
    simp only [List.length_append, List.length_cons] at hfuel
    rw [readFields_next hblank
        (readValue_laidOut x hfits.1 (by omega) (by omega) (endsNumber_comma _)),
      readFields_laidOut (y :: fields) (by simp) hclosing hfits.2 (by omega) (by omega)]
    rfl

end

/-- A text that is a value reads as it, if it nests no deeper than the reader goes. -/
theorem read?_laidOut {value : Json} (hfits : value.Fits) (hdepth : value.depth ≤ maxDepth)
    (level : Nat) : read? (String.ofList (laidOut l level value)) = some value.reread := by
  have hread : readValue (2 * (laidOut l level value).length + 2) maxDepth
      (laidOut l level value ++ []) = some (value.reread, []) :=
    readValue_laidOut hblank value hfits hdepth (by omega) (fun c hc => by cases hc)
  rw [List.append_nil] at hread
  rw [read?, readWithin?, String.toList_ofList]
  simp only [hread]
  rfl

omit hblank in
/-- Compact text is read back. -/
theorem read?_compact {value : Json} (hfits : value.Fits) (hdepth : value.depth ≤ maxDepth) :
    read? value.compact = some value.reread := by
  rw [compact, compactChars_eq value 0]
  exact read?_laidOut Layout.isBlank_dense hfits hdepth 0

omit hblank in
/-- Indented text is read back. -/
theorem read?_pretty {value : Json} (hfits : value.Fits) (hdepth : value.depth ≤ maxDepth) :
    read? value.pretty = some value.reread := by
  rw [pretty, prettyChars_eq value 0]
  exact read?_laidOut Layout.isBlank_indented hfits hdepth 0

omit hblank in
/-- Compact text is not empty. -/
theorem compact_ne_empty (value : Json) : value.compact ≠ "" := by
  obtain ⟨c, tail, htext, -⟩ := exists_laidOut_eq .dense 0 value
  rw [compact, compactChars_eq value 0, htext, ← String.ofList_nil]
  exact fun h => List.cons_ne_nil c tail (String.ofList_injective h)

omit hblank in
/-- Compact and indented text are read back also without their line ends. -/
theorem read?_filter {value : Json} {text : String}
    (htext : text = value.compact ∨ text = value.pretty) (hfits : value.Fits)
    (hdepth : value.depth ≤ maxDepth) :
    read? (String.ofList (text.toList.filter (· ≠ '\n'))) = some value.reread := by
  rcases htext with rfl | rfl
  · rw [compact, String.toList_ofList, compactChars_eq value 0, filter_laidOut]
    exact read?_laidOut Layout.isBlank_dense.unbroken hfits hdepth 0
  · rw [pretty, String.toList_ofList, prettyChars_eq value 0, filter_laidOut]
    exact read?_laidOut Layout.isBlank_indented.unbroken hfits hdepth 0

end TaskEngine.Json
