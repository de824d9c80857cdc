import TaskEngine.Proofs.Json.Depth
import TaskEngine.Proofs.Json.Records

/-!
# Records read back from their forms

A record is read from its fields in any order, under aliases as under names, since no field is looked
at twice. The text of an object is read as an object of the same fields in key order, so what is read
from an object of legible fields is read from its text too. A form is faithful if exactly the proper
values are read back from it: then everything that can be read is proper, and one reading settles it.
-/

namespace TaskEngine

namespace Decode

variable {α β : Type} {rules : List Rule} {fields others : List (String × Json)}
  {seen found : Fields}

/-! ## The order of fields -/

/-- Two fields may be visited the other way round. -/
theorem visitOne_comm {first second : String × Json}
    (h : (visitOne rules seen first >>= fun next => visitOne rules next second) = .ok found) :
    (visitOne rules seen second >>= fun next => visitOne rules next first) = .ok found := by
  obtain ⟨between, hfirst, hsecond⟩ := Outcome.bind_eq_ok.mp h
  rw [Outcome.bind_eq_ok]
  obtain ⟨hfind, rfl⟩ | ⟨rule, hfind, hnew, hcheck, rfl⟩ := visitOne_cases hfirst
  · exact ⟨found, hsecond, visitOne_of_none hfind⟩
  obtain ⟨hfind', rfl⟩ | ⟨other, hfind', hnew', hcheck', rfl⟩ := visitOne_cases hsecond
  · exact ⟨seen, visitOne_of_none hfind', hfirst⟩
  -- The second field was not yet there with the first one, so the two have different names.
  rw [Dict.get?_insert] at hnew'
  split at hnew'
  · cases hnew'
  · rename_i hne
    refine ⟨_, visitOne_of_some hfind' hnew' hcheck', ?_⟩
    rw [visitOne_of_some hfind (by rw [Dict.get?_insert, if_neg (Ne.symm hne), hnew]) hcheck]
    refine congrArg Except.ok (Dict.ext_get? fun key => ?_)
    simp only [Dict.get?_insert]
    split <;> split <;> simp_all

/-- The order of the fields does not matter. -/
theorem visit_perm (hperm : fields.Perm others) (h : visit rules seen fields = .ok found) :
    visit rules seen others = .ok found := by
  induction hperm generalizing seen with
  | nil => exact h
  | cons field _ ih =>
    rw [visit_cons, Outcome.bind_eq_ok] at h ⊢
    obtain ⟨next, hfield, hrest⟩ := h
    exact ⟨next, hfield, ih hrest⟩
  | swap first second rest =>
    simp only [visit_cons, ← bind_assoc] at h ⊢
    obtain ⟨next, htwo, hrest⟩ := Outcome.bind_eq_ok.mp h
    exact Outcome.bind_eq_ok.mpr ⟨next, visitOne_comm htwo, hrest⟩
  | trans _ _ ih ih' => exact ih' (ih h)

/-- A record is read from its fields in any order. -/
theorem objectFields_perm (hperm : fields.Perm others)
    (h : objectFields rules fields = .ok found) : objectFields rules others = .ok found := by
  rw [objectFields, Outcome.bind_eq_ok] at h ⊢
  obtain ⟨seen, hvisit, hmissing⟩ := h
  exact ⟨seen, visit_perm hperm hvisit, hmissing⟩

/-! ## Records within one object -/

/-- Fields that a record passes over: no rule knows one of them. -/
def PassesOver (rules : List Rule) (fields : List (String × Json)) : Prop :=
  ∀ field ∈ fields, ∀ rule ∈ rules, rule.name ≠ field.1 ∧ field.1 ∉ rule.aliases

theorem visit_append (more : List (String × Json)) : visit rules seen (fields ++ more) =
    (visit rules seen fields >>= fun next => visit rules next more) := by
  induction fields generalizing seen with
  | nil => rfl
  | cons field rest ih => simp only [List.cons_append, visit_cons, ih, bind_assoc]

theorem PassesOver.visit_eq (h : PassesOver rules fields) : visit rules seen fields = .ok seen := by
  induction fields generalizing seen with
  | nil => rfl
  | cons field rest ih =>
    have hnone : ruleFor? rules field.1 = none := by
      rw [ruleFor?, List.find?_eq_none]
      intro rule hrule
      simpa using h field List.mem_cons_self rule hrule
    rw [visit_cons, visitOne_of_none hnone]
    exact ih fun field hmem => h field (List.mem_cons_of_mem _ hmem)

/-- Fields that are passed over may stand behind a record. -/
theorem PassesOver.objectFields_append (h : PassesOver rules others) :
    objectFields rules (fields ++ others) = objectFields rules fields := by
  rw [objectFields, objectFields, visit_append, bind_assoc]
  refine congrArg _ (funext fun next => ?_)
  rw [h.visit_eq]
  rfl

/-- Fields that are passed over may stand in front of a record. -/
theorem PassesOver.append_objectFields (h : PassesOver rules others) :
    objectFields rules (others ++ fields) = objectFields rules fields := by
  rw [objectFields, objectFields, visit_append, h.visit_eq]
  rfl

/-! ## Fields of a record -/

-- A form whose keys are given is read by simplification, one field after the other.
attribute [simp] record objectRecord objectFields visit firstMissing? Rule.required Rule.defaulted
  Rule.nullable Rule.optionalInObject Rule.orNamed Fields.get Fields.getD Fields.find

@[simp] theorem contains_empty (key : String) : Dict.contains (∅ : Fields) key = false := rfl

@[simp] theorem contains_insert (key other : String) (value : Json) :
    Dict.contains (seen.insert key value) other = (key == other || Dict.contains seen other) := by
  by_cases h : key = other <;> simp [Dict.contains, Dict.get?_insert, h]

@[simp] theorem text_str (s : String) : text (.str s) = .ok s := rfl

@[simp] theorem bool_bool (b : Bool) : bool (.bool b) = .ok b := rfl

@[simp] theorem optional_str (decode : Json → Decoded α) (s : String) :
    optional decode (.str s) = (decode (.str s)).map some := rfl

/-- A field that is there was read from some value. -/
theorem Fields.exists_of_get {name : String} {decode : Json → Decoded α} {a : α}
    (h : Fields.get seen name decode = .ok a) : ∃ j, decode j = .ok a := by
  unfold Fields.get at h
  split at h
  · exact ⟨_, h⟩
  · cases h

/-- Every value but null stands for itself where null stands for none. -/
theorem optional_eq {decode : Json → Decoded α} {j : Json} (h : j ≠ .null) :
    optional decode j = (decode j).map some := by
  cases j <;> first | rfl | exact absurd rfl h

/-- A field that is neither absent nor null was read from some other value. -/
theorem Fields.exists_of_find {name : String} {decode : Json → Decoded α} {a : α}
    (h : Fields.find seen name decode = .ok (some a)) : ∃ j, j ≠ .null ∧ decode j = .ok a := by
  unfold Fields.find at h
  split at h
  · rename_i j _
    by_cases hnull : j = .null
    · rw [hnull] at h
      cases h
    · rw [optional_eq hnull] at h
      cases hread : decode j with
      | error e =>
        rw [hread] at h
        cases h
      | ok value =>
        rw [hread] at h
        cases h
        exact ⟨j, hnull, hread⟩
  · cases h

/-- Whether a number is an integer of 32 bits. -/
def IsInt32 (n : Int) : Prop := -0x80000000 ≤ n ∧ n ≤ 0x7FFFFFFF

instance (n : Int) : Decidable (IsInt32 n) := inferInstanceAs (Decidable (_ ∧ _))

theorem int32_ofInt {n : Int} (h : IsInt32 n) : int32 (.ofInt n) = .ok n := if_pos h

theorem isInt32_of_int32 {j : Json} {n : Int} (h : int32 j = .ok n) : IsInt32 n := by
  unfold int32 intWithin at h
  split at h
  · split at h
    · cases h
      assumption
    · cases h
  · cases h

/-- A dictionary is read back where it may be absent. -/
theorem optional_of_lists {read : Json → Decoded α} {write : α → Json} {d : Dict α} {j : Json}
    (hread : ∀ a, read (write a) = .ok a) (h : Lists write d j) :
    optional (dict read) j = .ok (some d) := by
  have hdict := dict_of_lists hread h
  obtain ⟨entries, -, rfl⟩ := h
  rw [optional_obj, hdict]
  rfl

@[simp] theorem optional_ofTexts (texts : Dict String) :
    optional (dict text) (Json.ofTexts texts) = .ok (some texts) :=
  optional_of_lists (fun _ => rfl) (lists_ofDict Json.str texts)

@[simp] theorem optional_ofDict (vars : Dict Json) : optional object (Json.ofDict vars) = .ok (some vars) :=
  optional_of_lists (fun _ => rfl) ⟨vars.toList, .refl _, by rw [List.map_id']; rfl⟩

end Decode

namespace Json

/-! ## Objects read from text -/

/-- The keys of fields stay. -/
theorem keys_rereadFields (fields : List (String × Json)) :
    (rereadFields fields).map (·.1) = fields.map (·.1) := by
  induction fields with
  | nil => rfl
  | cons field rest ih =>
    obtain ⟨key, value⟩ := field
    rw [rereadFields, List.map_cons, List.map_cons, ih]

/-- An object is read as an object of its fields in some order. -/
theorem exists_reread_obj {fields : List (String × Json)} (hnodup : (fields.map (·.1)).Nodup) :
    ∃ others, (Json.obj fields).reread = .obj others ∧ (rereadFields fields).Perm others := by
  refine ⟨_, rfl, Dict.perm_ofList ?_⟩
  rwa [keys_rereadFields]

/-- Fields that are read as themselves are read together as themselves. -/
theorem rereadFields_eq_self {fields : List (String × Json)}
    (h : ∀ field ∈ fields, field.2.reread = field.2) : rereadFields fields = fields := by
  induction fields with
  | nil => rfl
  | cons field rest ih =>
    obtain ⟨key, value⟩ := field
    rw [rereadFields, ih fun field hmem => h field (List.mem_cons_of_mem _ hmem),
      h (key, value) List.mem_cons_self]

theorem rereadFields_append (fields others : List (String × Json)) :
    rereadFields (fields ++ others) = rereadFields fields ++ rereadFields others := by
  induction fields with
  | nil => rfl
  | cons field rest ih =>
    obtain ⟨key, value⟩ := field
    rw [List.cons_append, rereadFields, rereadFields, ih, List.cons_append]

/-- Fields nest no deeper than a bound if each of them does not. -/
theorem depthFields_le_iff {fields : List (String × Json)} {n : Nat} :
    depthFields fields ≤ n ↔ ∀ field ∈ fields, field.2.depth ≤ n := by
  refine ⟨fun h => ?_, depthFields_le⟩
  induction fields with
  | nil => exact fun _ hmem => absurd hmem List.not_mem_nil
  | cons field rest ih =>
    obtain ⟨key, value⟩ := field
    rw [depthFields, Nat.max_le] at h
    exact List.forall_mem_cons.mpr ⟨h.1, ih h.2⟩

/-- Fields fit one by one. -/
theorem fitsFields_iff {fields : List (String × Json)} :
    FitsFields fields ↔ ∀ field ∈ fields, field.2.Fits := by
  induction fields with
  | nil => simp [FitsFields]
  | cons field rest ih =>
    obtain ⟨key, value⟩ := field
    rw [FitsFields, ih, List.forall_mem_cons]

/-- A value that is read from text as itself where it stands in a record: its numbers are, its objects
are in key order, and it does not nest too deep. -/
structure IsLegible (value : Json) : Prop where
  fits : value.Fits
  depth_lt : value.depth < maxDepth
  reread_eq : value.reread = value

@[simp] theorem isLegible_str (text : String) : (Json.str text).IsLegible :=
  ⟨trivial, Nat.succ_pos _, rfl⟩

@[simp] theorem isLegible_bool (b : Bool) : (Json.bool b).IsLegible := ⟨trivial, Nat.succ_pos _, rfl⟩

/-- Integers of 32 bits are legible. -/
theorem isLegible_ofInt {n : Int} (h : Decode.IsInt32 n) : (ofInt n).IsLegible where
  fits := by
    obtain ⟨hlow, hhigh⟩ := h
    change -2 ^ 63 ≤ n ∧ n ≤ ((2 ^ 64 - 1 : Nat) : Int)
    omega
  depth_lt := Nat.succ_pos _
  reread_eq := rfl

/-- A dictionary of texts is legible. -/
@[simp] theorem isLegible_ofTexts (texts : Dict String) : (ofTexts texts).IsLegible := by
  have hvalue : ∀ field ∈ (texts.map Json.str).toList, ∃ text, field.2 = .str text := by
    intro field hmem
    obtain ⟨entry, -, rfl⟩ := List.mem_map.mp hmem
    exact ⟨entry.2, rfl⟩
  refine ⟨fitsFields_iff.mpr fun field hmem => ?_, ?_, ?_⟩
  · obtain ⟨text, htext⟩ := hvalue field hmem
    rw [htext]
    trivial
  · refine Nat.lt_of_le_of_lt (Nat.succ_le_succ (depthFields_le (n := 0) fun field hmem => ?_))
      (by decide)
    obtain ⟨text, htext⟩ := hvalue field hmem
    rw [htext]
    exact Nat.le_refl 0
  · have hsame : rereadFields (texts.map Json.str).toList = (texts.map Json.str).toList := by
      refine rereadFields_eq_self fun field hmem => ?_
      obtain ⟨text, htext⟩ := hvalue field hmem
      rw [htext, reread]
    change object (rereadFields (texts.map Json.str).toList) = _
    rw [hsame, object, Dict.ofList_eq fun _ _ => Dict.mem_toList]
    rfl

/-- Legible fields of different names are read as themselves, in some order. -/
theorem read?_obj {fields : List (String × Json)} (hnodup : (fields.map (·.1)).Nodup)
    (h : ∀ field ∈ fields, field.2.IsLegible) :
    ∃ others, fields.Perm others ∧ read? (Json.obj fields).compact = some (.obj others) ∧
      read? (Json.obj fields).pretty = some (.obj others) := by
  obtain ⟨others, hreread, hperm⟩ := exists_reread_obj hnodup
  rw [rereadFields_eq_self fun field hmem => (h field hmem).reread_eq] at hperm
  have hfits : (Json.obj fields).Fits := fitsFields_iff.mpr fun field hmem => (h field hmem).fits
  have hdepth : (Json.obj fields).depth ≤ maxDepth :=
    Nat.succ_le_of_lt (Nat.lt_of_le_of_lt
      (depthFields_le fun field hmem => Nat.le_of_lt_succ (h field hmem).depth_lt) (by decide))
  exact ⟨others, hperm, hreread ▸ read?_compact hfits hdepth, hreread ▸ read?_pretty hfits hdepth⟩

end Json

/-! ## Faithful forms -/

section Faithful

variable {α : Type}

/-- A value is read from a JSON text. -/
def ReadsFrom (decode : Json → Decoded α) (text : String) (a : α) : Prop :=
  ∃ j, Json.read? text = some j ∧ decode j = .ok a

/-- Compact text is read up to a depth, and then as what its value is read as. -/
theorem readsFrom_compact_iff {decode : Json → Decoded α} {j : Json} {a : α} (hfits : j.Fits) :
    ReadsFrom decode j.compact a ↔ j.depth ≤ Json.maxDepth ∧ decode j.reread = .ok a := by
  rw [ReadsFrom, Json.read?_compact_eq hfits]
  split
  · rename_i hdepth
    simp [hdepth]
  · rename_i hdeep
    simp [hdeep]

/-- A form that is read back: exactly the proper values from their JSON values, whatever was read from the
JSON value written for it, and proper values from both layouts of the text too, as long as the free JSON
parts of the form are legible. -/
structure Faithful (decode : Json → Decoded α) (encode : α → Json) (Proper : α → Prop)
    (free : α → List Json) : Prop where
  value : ∀ a, decode (encode a) = .ok a ↔ Proper a
  again : ∀ j a, decode j = .ok a → decode (encode a) = .ok a
  text : ∀ a, Proper a → (∀ part ∈ free a, part.IsLegible) →
    ReadsFrom decode (encode a).compact a ∧ ReadsFrom decode (encode a).pretty a

/-- The fields that a form writes: their names differ, and they are legible if the free parts are. -/
structure Writes (fields : List (String × Json)) (proper : Prop) (free : List Json) : Prop where
  nodup : (fields.map (·.1)).Nodup
  legible : proper → (∀ part ∈ free, part.IsLegible) → ∀ field ∈ fields, field.2.IsLegible

/-- A record whose proper values are read back has a faithful form. -/
theorem Faithful.of_record {decode : Json → Decoded α} {encode : α → Json} {Proper : α → Prop}
    {free : α → List Json} {typeName : String} {rules : List Decode.Rule}
    {next : Decode.Fields → Decoded α}
    (hdecode : ∀ j, decode j = Decode.record typeName rules j >>= next)
    (hencode : ∀ a, ∃ fields, encode a = .obj fields ∧ Writes fields (Proper a) (free a))
    (hvalue : ∀ a, Proper a → decode (encode a) = .ok a)
    (hproper : ∀ j a, decode j = .ok a → Proper a) : Faithful decode encode Proper free where
  value a := ⟨hproper _ a, hvalue a⟩
  again j a h := hvalue a (hproper j a h)
  text a ha hfree := by
    obtain ⟨fields, hfields, hwrites⟩ := hencode a
    obtain ⟨others, hperm, hcompact, hpretty⟩ :=
      Json.read?_obj hwrites.nodup (hwrites.legible ha hfree)
    have hread : decode (.obj others) = .ok a := by
      have hown := hvalue a ha
      rw [hfields, hdecode, Outcome.bind_eq_ok] at hown
      obtain ⟨found, hfound, hnext⟩ := hown
      rw [hdecode, Outcome.bind_eq_ok]
      exact ⟨found, Decode.objectFields_perm hperm hfound, hnext⟩
    rw [hfields]
    exact ⟨⟨_, hcompact, hread⟩, ⟨_, hpretty, hread⟩⟩

end Faithful

end TaskEngine
