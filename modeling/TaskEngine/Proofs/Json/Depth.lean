import TaskEngine.Proofs.Json.RoundTrip

/-!
# How deeply JSON text may nest

The reader opens only so many arrays and objects at once. A value that nests deeper is written all
the same, and its text is then not read: whatever stands in front of the part that is too deep is
read back, so the reader gets there and refuses. The text of a value is therefore read exactly if the
value nests no deeper than the reader goes.
-/

namespace TaskEngine.Json

open Text (isPlainBlank)

/-! ## Bounds -/

/-- Fields nest as deep as the deepest of them. -/
theorem depthFields_le {fields : List (String × Json)} {n : Nat}
    (h : ∀ field ∈ fields, field.2.depth ≤ n) : depthFields fields ≤ n := by
  induction fields with
  | nil => exact Nat.zero_le n
  | cons field rest ih =>
    obtain ⟨key, value⟩ := field
    rw [depthFields]
    exact Nat.max_le.mpr ⟨h _ List.mem_cons_self,
      ih fun field hmem => h field (List.mem_cons_of_mem _ hmem)⟩

/-- Items nest as deep as the deepest of them. -/
theorem depthItems_le {items : List Json} {n : Nat} (h : ∀ item ∈ items, item.depth ≤ n) :
    depthItems items ≤ n := by
  induction items with
  | nil => exact Nat.zero_le n
  | cons item rest ih =>
    rw [depthItems]
    exact Nat.max_le.mpr ⟨h item List.mem_cons_self,
      ih fun item hmem => h item (List.mem_cons_of_mem _ hmem)⟩

/-! ## Text that is too deep -/

variable {l : Layout} (hblank : l.IsBlank)

/-- An array needs one level of its own. -/
theorem readValue_arr_zero (items : List Json) (fuel level : Nat) (rest : List Char) :
    readValue (fuel + 1) 0 (laidOut l level (.arr items) ++ rest) = none := by
  cases items <;> rfl

/-- An object needs one level of its own. -/
theorem readValue_obj_zero (fields : List (String × Json)) (fuel level : Nat) (rest : List Char) :
    readValue (fuel + 1) 0 (laidOut l level (.obj fields) ++ rest) = none := by
  cases fields <;> rfl

include hblank

/-- Items are not read if the first of them is not. -/
theorem readItems_of_none {x : Json} {fuel depth level : Nat} {cs : List Char}
    (h : readValue fuel depth (laidOut l level x ++ cs) = none) :
    readItems (fuel + 1) depth (l.lead level ++ laidOut l level x ++ cs) = none := by
  rw [List.append_assoc, readItems, readValue_append (hblank.lead level), h]

/-- Fields are not read if the value of the first of them is not. -/
theorem readFields_of_none {k : String} {x : Json} {fuel depth level : Nat} {cs : List Char}
    (h : readValue fuel depth (laidOut l level x ++ cs) = none) :
    readFields (fuel + 1) depth
      (l.lead level ++ quoteChars k ++ ':' :: l.gap ++ laidOut l level x ++ cs) = none := by
  obtain ⟨tail, htext, hread⟩ := quoteChars_append k (':' :: (l.gap ++ (laidOut l level x ++ cs)))
  have hshape : l.lead level ++ quoteChars k ++ ':' :: l.gap ++ laidOut l level x ++ cs =
      l.lead level ++ (quoteChars k ++ ':' :: (l.gap ++ (laidOut l level x ++ cs))) := by
    simp
  rw [hshape, readFields_append (hblank.lead level), htext, readFields, skipBlanks_cons (by decide)]
  simp only [hread, skipBlanks_cons (c := ':') (by decide), readValue_append hblank.gap, h]

mutual

/-- A value that nests too deep is not read from its text. -/
theorem readValue_of_deep (value : Json) {fuel depth level : Nat} {rest : List Char}
    (hfits : value.Fits) (hdepth : depth < value.depth)
    (hfuel : 2 * (laidOut l level value).length ≤ fuel + 1) :
    readValue fuel depth (laidOut l level value ++ rest) = none := by
  obtain ⟨c, tail, htext, -⟩ := exists_laidOut_eq l level value
  have hlength : 0 < (laidOut l level value).length := by
    rw [htext]
    exact Nat.succ_pos _
  obtain ⟨fuel, rfl⟩ := Nat.exists_eq_add_of_le' (show 1 ≤ fuel by omega)
  match value, depth with
  | .arr items, 0 => exact readValue_arr_zero items fuel level rest
  | .obj fields, 0 => exact readValue_obj_zero fields fuel level rest
  | .arr [], depth + 1 => simp [Json.depth, depthItems] at hdepth
  | .obj [], depth + 1 => simp [Json.depth, depthFields] at hdepth
  | .arr (x :: items), depth + 1 =>
    rw [Json.depth] at hdepth
    rw [laidOut, List.length_append, List.length_append, List.length_cons,
      List.length_singleton] at hfuel
    rw [readValue_arr hblank, readItems_of_deep (x :: items) (by simp) (hblank.lead level) hfits
      (by omega) (by omega)]
    rfl
  | .obj ((k, x) :: fields), depth + 1 =>
    rw [Json.depth] at hdepth
    rw [laidOut, List.length_append, List.length_append, List.length_cons,
      List.length_singleton] at hfuel
    rw [readValue_obj hblank, readFields_of_deep ((k, x) :: fields) (by simp) (hblank.lead level)
      hfits (by omega) (by omega)]
    rfl
  | .null, _ | .bool _, _ | .num _, _ | .str _, _ => simp [Json.depth] at hdepth

/-- Items of which one nests too deep are not read. -/
theorem readItems_of_deep (items : List Json) (hne : items ≠ []) {fuel depth level : Nat}
    {closing rest : List Char} (hclosing : ∀ c ∈ closing, isPlainBlank c = true)
    (hfits : FitsItems items) (hdepth : depth < depthItems items)
    (hfuel : 2 * (laidOutItems l level items).length ≤ fuel) :
    readItems fuel depth (laidOutItems l level items ++ (closing ++ ']' :: rest)) = none := by
  obtain ⟨c, tail, htext, -⟩ := exists_laidOutItems_eq l level hne
  have hlength : 0 < (laidOutItems l level items).length := by
    rw [htext, List.length_append, List.length_cons]
    omega
  obtain ⟨fuel, rfl⟩ := Nat.exists_eq_add_of_le' (show 1 ≤ fuel by omega)
  match items with
  | [x] =>
    simp only [depthItems] at hdepth
    rw [laidOutItems, List.length_append] at hfuel
    rw [laidOutItems]
    exact readItems_of_none hblank (readValue_of_deep x hfits.1 (by omega) (by omega))
  | x :: y :: items =>
    rw [depthItems] at hdepth
    rw [laidOutItems, List.length_append, List.length_append, List.length_cons] at hfuel
    by_cases hfirst : depth < x.depth
    · rw [laidOutItems, List.append_assoc]
      exact readItems_of_none hblank (readValue_of_deep x hfits.1 hfirst (by omega))
    · rw [readItems_next hblank
          (readValue_laidOut hblank x hfits.1 (by omega) (by omega) (endsNumber_comma _)),
        readItems_of_deep (y :: items) (by simp) hclosing hfits.2 (by omega) (by omega)]
      rfl

/-- Fields of which one nests too deep are not read. -/
theorem readFields_of_deep (fields : List (String × Json)) (hne : fields ≠ [])
    {fuel depth level : Nat} {closing rest : List Char}
    (hclosing : ∀ c ∈ closing, isPlainBlank c = true) (hfits : FitsFields fields)
    (hdepth : depth < depthFields fields)
    (hfuel : 2 * (laidOutFields l level fields).length ≤ fuel) :
    readFields fuel depth (laidOutFields l level fields ++ (closing ++ '\x7d' :: rest)) = none := by
  obtain ⟨tail, htext⟩ := exists_laidOutFields_eq l level hne
  have hlength : 0 < (laidOutFields l level fields).length := by
    rw [htext, List.length_append, List.length_cons]
    omega
  obtain ⟨fuel, rfl⟩ := Nat.exists_eq_add_of_le' (show 1 ≤ fuel by omega)
  match fields with
  | [(k, x)] =>
    simp only [depthFields] at hdepth
    rw [laidOutFields] at hfuel
    simp only [List.length_append, List.length_cons] at hfuel
    rw [laidOutFields]
    exact readFields_of_none hblank (readValue_of_deep x hfits.1 (by omega) (by omega))
  | (k, x) :: y :: fields =>
    rw [depthFields] at hdepth
    rw [laidOutFields] at hfuel
    simp only [List.length_append, List.length_cons] at hfuel
    by_cases hfirst : depth < x.depth
    · rw [laidOutFields, List.append_assoc, List.cons_append]
      exact readFields_of_none hblank (readValue_of_deep x hfits.1 hfirst (by omega))
    · rw [readFields_next hblank
          (readValue_laidOut hblank x hfits.1 (by omega) (by omega) (endsNumber_comma _)),
        readFields_of_deep (y :: fields) (by simp) hclosing hfits.2 (by omega) (by omega)]
      rfl

end

omit hblank in
/-- Compact text that nests too deep is not read. -/
theorem read?_compact_of_deep {value : Json} (hfits : value.Fits)
    (hdepth : maxDepth < value.depth) : read? value.compact = none := by
  have hread : readValue (2 * (laidOut .dense 0 value).length + 2) maxDepth
      (laidOut .dense 0 value ++ []) = none :=
    readValue_of_deep Layout.isBlank_dense value hfits hdepth (by omega)
  rw [List.append_nil] at hread
  rw [read?, readWithin?, compact, String.toList_ofList, compactChars_eq value 0]
  simp only [hread]

omit hblank in
/-- Compact text is read exactly if the value nests no deeper than the reader goes. -/
theorem read?_compact_eq {value : Json} (hfits : value.Fits) :
    read? value.compact = if value.depth ≤ maxDepth then some value.reread else none := by
  split
  · rename_i hdepth
    exact read?_compact hfits hdepth
  · rename_i hdeep
    exact read?_compact_of_deep hfits (Nat.lt_of_not_le hdeep)

end TaskEngine.Json
