import TaskEngine.Json.Decode
import TaskEngine.Proofs.Dict
import TaskEngine.Proofs.Outcome

/-!
# Records read field by field

An object is read as a record whatever the order of its fields and whatever it holds besides them.
If no key comes twice, every known field is of its type and none that has to be there is missing,
then the record is read, and each of its fields is what the object has under that name.
-/

namespace TaskEngine

namespace Decode

variable {rules : List Rule} {fields : List (String × Json)} {seen next found : Fields} {rule : Rule}

/-! ## One field visited -/

/-- The rule that knows a key. -/
def ruleFor? (rules : List Rule) (key : String) : Option Rule :=
  rules.find? fun rule => rule.name == key || rule.aliases.contains key

/-- Rules that know their fields by one name each. -/
def OneName (rules : List Rule) : Prop := ∀ rule ∈ rules, rule.aliases = []

/-- The rule for a key is the one of that name. -/
theorem OneName.name_eq (h : OneName rules) {key : String} (hfind : ruleFor? rules key = some rule) :
    rule.name = key := by
  simpa [h rule (List.mem_of_find?_eq_some hfind)] using List.find?_some hfind

/-- A key without a rule is the name of none. -/
theorem name_ne_of_ruleFor? {key : String} (hfind : ruleFor? rules key = none)
    (hrule : rule ∈ rules) : rule.name ≠ key := by
  have hnone := List.find?_eq_none.mp hfind rule hrule
  rintro rfl
  simp at hnone

/-- Visit one field. -/
def visitOne (rules : List Rule) (seen : Fields) (field : String × Json) : Decoded Fields :=
  match ruleFor? rules field.1 with
  | none => .ok seen
  | some rule =>
    if seen.contains rule.name then .error (.duplicate rule.name)
    else
      match rule.check field.2 with
      | .error e => .error e
      | .ok () => .ok (seen.insert rule.name field.2)

/-- Fields are visited one after the other. -/
theorem visit_cons (field : String × Json) (rest : List (String × Json)) :
    visit rules seen (field :: rest) =
      (visitOne rules seen field >>= fun next => visit rules next rest) := by
  obtain ⟨key, value⟩ := field
  rw [visit, visitOne]
  change (match ruleFor? rules key with | none => _ | some rule => _) = _
  cases ruleFor? rules key with
  | none => rfl
  | some rule =>
    simp only
    split
    · rfl
    · cases rule.check value <;> rfl

/-- A field without a rule is passed over. -/
theorem visitOne_of_none {field : String × Json} (hfind : ruleFor? rules field.1 = none) :
    visitOne rules seen field = .ok seen := by
  simp only [visitOne, hfind]

/-- A field of its type is taken when it is seen for the first time. -/
theorem visitOne_of_some {field : String × Json} (hfind : ruleFor? rules field.1 = some rule)
    (hnew : seen.get? rule.name = none) (hcheck : rule.check field.2 = .ok ()) :
    visitOne rules seen field = .ok (seen.insert rule.name field.2) := by
  simp only [visitOne, hfind, Dict.contains_eq_false_iff.mpr hnew, hcheck]
  rfl

/-- There is no other way to visit a field. -/
theorem visitOne_cases {field : String × Json} (h : visitOne rules seen field = .ok next) :
    (ruleFor? rules field.1 = none ∧ next = seen) ∨
      ∃ rule, ruleFor? rules field.1 = some rule ∧ seen.get? rule.name = none ∧
        rule.check field.2 = .ok () ∧ next = seen.insert rule.name field.2 := by
  cases hfind : ruleFor? rules field.1 with
  | none =>
    simp only [visitOne, hfind] at h
    exact .inl ⟨rfl, (Except.ok.inj h).symm⟩
  | some rule =>
    simp only [visitOne, hfind] at h
    split at h
    · cases h
    · rename_i hnew
      rw [Bool.not_eq_true, Dict.contains_eq_false_iff] at hnew
      cases hcheck : rule.check field.2 with
      | error e =>
        rw [hcheck] at h
        cases h
      | ok checked =>
        rw [hcheck] at h
        exact .inr ⟨rule, rfl, hnew, hcheck, (Except.ok.inj h).symm⟩

/-! ## Fields visited -/

/-- The fields that were visited are those that had been seen and those of the object. -/
theorem get?_of_visit (hnames : OneName rules) (h : visit rules seen fields = .ok found)
    (hrule : rule ∈ rules) :
    found.get? rule.name = (seen.get? rule.name).or (Dict.lookup rule.name fields) := by
  induction fields generalizing seen with
  | nil =>
    cases h
    simp [Dict.lookup]
  | cons field rest ih =>
    obtain ⟨key, value⟩ := field
    rw [visit_cons, Outcome.bind_eq_ok] at h
    obtain ⟨next, hone, hrest⟩ := h
    obtain ⟨hfind, rfl⟩ | ⟨known, hfind, hnew, -, rfl⟩ := visitOne_cases hone
    · rw [ih hrest, Dict.lookup, if_neg (name_ne_of_ruleFor? hfind hrule).symm]
    · -- A field may not have been seen before, so the first one in the object is the one found.
      obtain rfl := hnames.name_eq hfind
      rw [ih hrest, Dict.get?_insert, Dict.lookup]
      split
      · rename_i hkey
        simp [← hkey, hnew]
      · rfl

/-- New fields of their types are visited without an objection. -/
theorem exists_visit (hnames : OneName rules) (hnodup : (fields.map (·.1)).Nodup)
    (hchecks : ∀ rule ∈ rules, ∀ value, (rule.name, value) ∈ fields → rule.check value = .ok ())
    (hnew : ∀ field ∈ fields, seen.get? field.1 = none) :
    ∃ found, visit rules seen fields = .ok found := by
  induction fields generalizing seen with
  | nil => exact ⟨seen, rfl⟩
  | cons field rest ih =>
    obtain ⟨key, value⟩ := field
    obtain ⟨hfirst, hrest⟩ := List.nodup_cons.mp hnodup
    have hlater : ∀ rule ∈ rules, ∀ value, (rule.name, value) ∈ rest →
        rule.check value = .ok () :=
      fun rule hrule value hmem => hchecks rule hrule value (List.mem_cons_of_mem _ hmem)
    rw [visit_cons]
    cases hfind : ruleFor? rules key with
    | none =>
      rw [visitOne_of_none hfind]
      exact ih hrest hlater fun field hmem => hnew field (List.mem_cons_of_mem _ hmem)
    | some known =>
      obtain rfl := hnames.name_eq hfind
      have hcheck : known.check value = .ok () :=
        hchecks known (List.mem_of_find?_eq_some hfind) value List.mem_cons_self
      rw [visitOne_of_some hfind (hnew _ List.mem_cons_self) hcheck]
      refine ih hrest hlater fun field hmem => ?_
      have hother : known.name ≠ field.1 := fun he =>
        hfirst (List.mem_map.mpr ⟨field, hmem, he.symm⟩)
      rw [Dict.get?_insert, if_neg hother]
      exact hnew field (List.mem_cons_of_mem _ hmem)

/-! ## Records -/

/-- Fields that suit the rules of a record. -/
structure Conforms (rules : List Rule) (fields : List (String × Json)) : Prop where
  /-- No key comes twice. -/
  nodup : (fields.map (·.1)).Nodup
  /-- Every known field is of its type. -/
  checks : ∀ rule ∈ rules, ∀ value, (rule.name, value) ∈ fields → rule.check value = .ok ()
  /-- What has to be there is there. -/
  present : ∀ rule ∈ rules, rule.absence = .refused → ∃ value, (rule.name, value) ∈ fields

/-- The fields of a record that was read are those of the object. -/
theorem get?_of_objectFields (hnames : OneName rules) (h : objectFields rules fields = .ok found)
    (hrule : rule ∈ rules) : found.get? rule.name = Dict.lookup rule.name fields := by
  obtain ⟨visited, hvisit, hmissing⟩ := Outcome.bind_eq_ok.mp h
  have hfound : visited = found := by
    split at hmissing
    · cases hmissing
    · exact Except.ok.inj hmissing
  exact hfound ▸ get?_of_visit hnames hvisit hrule

/-- Fields that suit the rules are read. -/
theorem Conforms.exists_objectFields (h : Conforms rules fields) (hnames : OneName rules) :
    ∃ found, objectFields rules fields = .ok found ∧
      ∀ rule ∈ rules, found.get? rule.name = Dict.lookup rule.name fields := by
  obtain ⟨found, hvisit⟩ : ∃ found, visit rules ∅ fields = .ok found :=
    exists_visit hnames h.nodup h.checks fun _ _ => rfl
  have hmissing : firstMissing? rules found = none := by
    rw [firstMissing?, Option.map_eq_none_iff, List.find?_eq_none]
    intro rule hrule
    by_cases habsent : rule.absence = .refused
    · obtain ⟨value, hmem⟩ := h.present rule hrule habsent
      have hget : found.get? rule.name = some value := by
        rw [get?_of_visit hnames hvisit hrule]
        exact Dict.lookup_of_mem_nodup h.nodup hmem
      simp [Dict.contains, hget]
    · simp [habsent]
  have hread : objectFields rules fields = .ok found := by
    refine Outcome.bind_eq_ok.mpr ⟨found, hvisit, ?_⟩
    simp only [hmissing]
    rfl
  exact ⟨found, hread, fun rule hrule => get?_of_objectFields hnames hread hrule⟩

/-- A field that may be null is read if the field of the object is of its type. -/
theorem Conforms.exists_find {α : Type} (h : Conforms rules fields) (name : String)
    (decode : Json → Decoded α) (hrule : Rule.nullable name decode ∈ rules)
    (hfound : found.get? name = Dict.lookup name fields) :
    ∃ value, Fields.find found name decode = .ok value := by
  rw [Fields.find, hfound]
  cases hlookup : Dict.lookup name fields with
  | none => exact ⟨none, rfl⟩
  | some j =>
    have hcheck : (optional decode j).map (fun _ => ()) = .ok () :=
      h.checks _ hrule j (Dict.mem_of_lookup hlookup)
    cases hread : optional decode j with
    | error e =>
      rw [hread] at hcheck
      cases hcheck
    | ok value => exact ⟨value, hread⟩

/-- The bindings of a dictionary suit the rules if look-ups find suitable values. -/
theorem conforms_entries {d : Dict Json}
    (hchecks : ∀ rule ∈ rules, ∀ value, d.get? rule.name = some value → rule.check value = .ok ())
    (hpresent : ∀ rule ∈ rules, rule.absence = .refused → d.contains rule.name = true) :
    Conforms rules d.entries where
  nodup := Dict.nodup_keys d.sorted
  checks rule hrule value hmem := hchecks rule hrule value (Dict.mem_toList.mp hmem)
  present rule hrule habsent := by
    obtain ⟨value, hget⟩ := Dict.contains_iff.mp (hpresent rule hrule habsent)
    exact ⟨value, Dict.mem_toList.mpr hget⟩

/-- An object stands for a value, not for none. -/
theorem optional_obj {α : Type} (decode : Json → Decoded α) (fields : List (String × Json)) :
    Decode.optional decode (.obj fields) = (decode (.obj fields)).map some := rfl

/-! ## Objects written -/

/-- An object of fields whose names differ has those that are there. -/
theorem get?_objectOf (fields : List (String × Option Json)) (h : (fields.map (·.1)).Nodup)
    (key : String) :
    (Dict.ofList (fields.filterMap fun field => field.2.map (field.1, ·))).get? key =
      (Dict.lookup key fields).join := by
  have hsublist : ((fields.filterMap fun field => field.2.map (field.1, ·)).map (·.1)).Sublist
      (fields.map (·.1)) := by
    clear h
    induction fields with
    | nil => exact .slnil
    | cons field rest ih =>
      obtain ⟨k, value⟩ := field
      cases value with
      | none => exact .cons _ ih
      | some value => exact .cons_cons _ ih
  rw [Dict.ofList, Dict.get?_insertAll_of_nodup (hsublist.nodup h), Dict.get?_empty, Option.or_none]
  clear hsublist
  induction fields with
  | nil => rfl
  | cons field rest ih =>
    obtain ⟨k, value⟩ := field
    obtain ⟨hfirst, hrest⟩ := List.nodup_cons.mp h
    cases value with
    | none =>
      rw [List.filterMap_cons_none rfl, ih hrest, Dict.lookup]
      split
      · rename_i hkey
        rw [Dict.lookup_eq_none (hkey ▸ hfirst)]
        rfl
      · rfl
    | some value =>
      have hhead : ((k, some value) :: rest).filterMap (fun field => field.2.map (field.1, ·)) =
          (k, value) :: rest.filterMap fun field => field.2.map (field.1, ·) := rfl
      rw [hhead, Dict.lookup, Dict.lookup]
      split
      · rfl
      · exact ih hrest

/-! ## Dictionaries -/

/-- An object that lists the bindings of a dictionary in some order. -/
def Lists {α : Type} (write : α → Json) (d : Dict α) (j : Json) : Prop :=
  ∃ entries : List (String × α), entries.Perm d.toList ∧
    j = .obj (entries.map fun entry => (entry.1, write entry.2))

/-- The object of a dictionary lists its bindings. -/
theorem lists_ofDict {α : Type} (write : α → Json) (d : Dict α) :
    Lists write d (Json.ofDict (d.map write)) := ⟨d.toList, .refl _, rfl⟩

/-- A dictionary is read from its bindings in any order. -/
theorem dict_of_lists {α : Type} {read : Json → Decoded α} {write : α → Json} {d : Dict α}
    {j : Json} (hread : ∀ a, read (write a) = .ok a) (h : Lists write d j) : dict read j = .ok d := by
  obtain ⟨entries, hperm, rfl⟩ := h
  have hentries : ∀ {readEntry : String × Json → Decoded (String × α)},
      (∀ entry, readEntry (entry.1, write entry.2) = .ok entry) → ∀ entries : List (String × α),
        (entries.map fun entry => (entry.1, write entry.2)).mapM readEntry = .ok entries := by
    intro readEntry hentry entries
    induction entries with
    | nil => rfl
    | cons entry rest ih =>
      rw [List.map_cons, List.mapM_cons, ih, hentry]
      rfl
  have hdict : Dict.ofList entries = d :=
    Dict.ofList_eq fun key value => by rw [hperm.mem_iff, Dict.mem_toList]
  rw [dict, hentries fun entry => by simp only [hread]; rfl]
  exact congrArg Except.ok hdict

end Decode

end TaskEngine
