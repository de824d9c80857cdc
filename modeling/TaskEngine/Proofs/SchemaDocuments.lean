import Mathlib.Data.List.Basic
import TaskEngine.Schema.Input

/-!
# Schemas as they are written

A stored schema is taken as it is written if one of its keys is known as a keyword or one of its
values is no object. Not all keywords of the latest dialect are known. An object that holds nothing
but objects under keywords of the other ones is taken for a map of properties with these names, and
then every object without such properties is accepted.
-/

namespace TaskEngine.Schema

/-! ## Keywords -/

/-- The keywords of the latest dialect, one vocabulary after the other, and one of older dialects. -/
def keywords : List String :=
  ["$id", "$schema", "$ref", "$anchor", "$dynamicRef", "$dynamicAnchor", "$vocabulary", "$comment",
    "$defs"] ++
  ["prefixItems", "items", "contains", "additionalProperties", "properties", "patternProperties",
    "dependentSchemas", "propertyNames", "if", "then", "else", "allOf", "anyOf", "oneOf", "not"] ++
  ["unevaluatedItems", "unevaluatedProperties"] ++
  ["type", "enum", "const", "multipleOf", "maximum", "exclusiveMaximum", "minimum",
    "exclusiveMinimum", "maxLength", "minLength", "pattern", "maxItems", "minItems", "uniqueItems",
    "maxContains", "minContains", "maxProperties", "minProperties", "required",
    "dependentRequired"] ++
  ["title", "description", "default", "deprecated", "readOnly", "writeOnly", "examples"] ++
  ["format"] ++
  ["contentEncoding", "contentMediaType", "contentSchema"] ++
  ["definitions"]

/-- Whether the fields of an object are those of a full schema: one of them is a keyword. -/
def IsDocument (fields : List (String × Json)) : Prop := ∃ field ∈ fields, field.1 ∈ keywords

instance (fields : List (String × Json)) : Decidable (IsDocument fields) :=
  inferInstanceAs (Decidable (∃ field ∈ fields, field.1 ∈ keywords))

/-- All keys that mark a full schema are keywords. -/
theorem mem_keywords_of_mem_documentKeys : ∀ key ∈ documentKeys, key ∈ keywords := by decide

/-! ## Two readings of an object -/

/-- The schema of objects with the given properties. -/
def objectSchema (properties : List (String × Json)) : Json :=
  Json.object [("type", .str "object"), ("properties", .obj properties)]

/-- The fields of an object schema in their order. -/
theorem objectSchema_eq (properties : List (String × Json)) :
    objectSchema properties = .obj [("properties", .obj properties), ("type", .str "object")] := by
  have horder : "properties" < "type" := by decide
  simp [objectSchema, Json.object, Json.ofDict, Dict.ofList, Dict.insertAll, Dict.insert, Dict.place,
    Dict.empty, horder]

/-- Judge raw input by a schema as it is written. -/
def validateBy (document : Json) (raw : String) : Outcome Unit := do
  match dialect? document with
  | none => .error invalidSchema
  | some d =>
    let input ← parseInput raw
    match violations d document input with
    | [] => .ok ()
    | found => .error (mismatch found)

/-- Whether a stored schema stands for itself, so that all input is judged by it. -/
def EnforcedAsWritten (schema : Json) : Prop :=
  normalize schema = schema ∧ ∀ raw, validate schema raw = validateBy schema raw

theorem enforcedAsWritten_iff {schema : Json} :
    EnforcedAsWritten schema ↔ normalize schema = schema := by
  refine ⟨And.left, fun h => ⟨h, fun raw => ?_⟩⟩
  change validateBy (normalize schema) raw = validateBy schema raw
  rw [h]

/-- An object is a map of properties if all of its values are objects and none of its keys is known. -/
theorem isPropertyMap_iff {fields : List (String × Json)} :
    isPropertyMap fields = true ↔
      fields ≠ [] ∧ ∀ field ∈ fields, field.1 ∉ documentKeys ∧ field.2.isObject = true := by
  simp [isPropertyMap]

theorem normalize_of_isPropertyMap {fields : List (String × Json)}
    (h : isPropertyMap fields = true) : normalize (.obj fields) = objectSchema fields := by
  simp only [normalize, h, if_true]
  rfl

/-- The type of an object schema is no object, so no map of properties is one. -/
theorem objectSchema_ne {fields : List (String × Json)} (h : isPropertyMap fields = true) :
    objectSchema fields ≠ .obj fields := by
  intro heq
  rw [objectSchema_eq, Json.obj.injEq] at heq
  have htype : ("type", Json.str "object") ∈ fields := by
    rw [← heq]
    simp
  exact absurd ((isPropertyMap_iff.mp h).2 _ htype).2 (by decide)

/-- A stored object stands for itself exactly if it is no map of properties. -/
theorem normalize_eq_self_iff {fields : List (String × Json)} :
    normalize (.obj fields) = .obj fields ↔ isPropertyMap fields = false := by
  cases h : isPropertyMap fields with
  | true => simpa [normalize_of_isPropertyMap h] using objectSchema_ne h
  | false => simp [normalize, h]

/-! ## Maps of properties -/

/-- An object schema is read by the dialect that it is applied by, as it names none. -/
theorem dialect_ofRoot_objectSchema (properties : List (String × Json)) (d : Dialect) :
    (Setting.ofRoot d (objectSchema properties)).dialect = d := by
  rw [objectSchema_eq]
  cases d <;> rfl

/-- The schema of objects with the given properties accepts every object without any of them. -/
theorem violations_objectSchema {properties input : List (String × Json)}
    (h : ∀ property ∈ properties, Dict.lookup property.1 input = none) :
    violations .draft2020 (objectSchema properties) (.obj input) = [] := by
  have heffective : Keyword.effective .draft2020
      [("properties", .obj properties), ("type", .str "object")] =
        [("properties", .obj properties), ("type", .str "object")] := rfl
  have hproperties : ∀ judge, Keyword.propertyViolations judge properties input = [] := by
    intro judge
    refine List.flatMap_eq_nil_iff.mpr fun property hproperty => ?_
    rw [h property hproperty]
  have hfirst : ∀ s judge fuel siblings, Keyword.violations s judge fuel siblings "properties"
      (.obj properties) (.obj input) = [] := by
    intro s judge fuel siblings
    change (if Keyword.isTakenOver siblings then [] else
      Keyword.propertyViolations (fun schema => judge (s.inside schema)) properties input) = []
    rw [hproperties, ite_self]
  have hsecond : ∀ s judge fuel siblings, Keyword.violations s judge fuel siblings "type"
      (.str "object") (.obj input) = [] := fun _ _ _ _ => rfl
  have hdialect := dialect_ofRoot_objectSchema properties .draft2020
  rw [objectSchema_eq] at hdialect ⊢
  rw [violations, budget, violationsWithin]
  simp only [hdialect, heffective, List.flatMap_cons, List.flatMap_nil, hfirst, hsecond,
    List.append_nil]

/-- An object schema is of the latest dialect. -/
theorem dialect?_objectSchema {properties : List (String × Json)} {d : Dialect}
    (h : dialect? (objectSchema properties) = some d) : d = .draft2020 := by
  obtain ⟨found, hfound, hd⟩ := Option.bind_eq_some_iff.mp h
  rw [objectSchema_eq] at hfound
  cases hfound
  split at hd
  · exact (Option.some.inj hd).symm
  · cases hd

/-- If a map of properties is in order, every object without any of the properties is valid. -/
theorem validate_of_isPropertyMap {fields input : List (String × Json)} {raw : String}
    (h : isPropertyMap fields = true) (hread : parseInput raw = .ok (.obj input))
    (hfree : ∀ field ∈ fields, Dict.lookup field.1 input = none) :
    validate (.obj fields) raw = check (.obj fields) := by
  rw [validate, check, normalize_of_isPropertyMap h]
  cases hdialect : dialect? (objectSchema fields) with
  | none => rfl
  | some d =>
    obtain rfl := dialect?_objectSchema hdialect
    simp only [hread, Option.isSome_some, if_true]
    change (match violations .draft2020 (objectSchema fields) (.obj input) with
      | [] => .ok ()
      | found => .error (mismatch found)) = Except.ok ()
    rw [violations_objectSchema hfree]

/-- A full schema is enforced as it is written exactly if one of its keys is known as a keyword or
one of its values is no object. If it is not, its keys are the names of properties, and where it is
accepted at all, so is every object without these properties. All other objects that hold nothing
but objects are maps of properties. -/
theorem documents_enforced_iff (fields : List (String × Json)) :
    (IsDocument fields →
      (EnforcedAsWritten (.obj fields) ↔
        ∃ field ∈ fields, field.1 ∈ documentKeys ∨ field.2.isObject = false) ∧
      (¬ EnforcedAsWritten (.obj fields) → normalize (.obj fields) = objectSchema fields ∧
        ∀ raw input, parseInput raw = .ok (.obj input) →
          (∀ field ∈ fields, Dict.lookup field.1 input = none) →
            validate (.obj fields) raw = check (.obj fields))) ∧
    (fields ≠ [] → ¬ IsDocument fields → (∀ field ∈ fields, field.2.isObject = true) →
      normalize (.obj fields) = objectSchema fields) := by
  constructor
  · rintro ⟨keyword, hkeyword, -⟩
    have hne : fields ≠ [] := List.ne_nil_of_mem hkeyword
    rw [enforcedAsWritten_iff, normalize_eq_self_iff]
    refine ⟨?_, fun hmap => ?_⟩
    · rw [← Bool.not_eq_true, isPropertyMap_iff, and_iff_right hne]
      simp only [not_forall, not_and_or, not_not, Bool.not_eq_true, exists_prop]
    · rw [Bool.not_eq_false] at hmap
      exact ⟨normalize_of_isPropertyMap hmap, fun raw input => validate_of_isPropertyMap hmap⟩
  · intro hne hplain hobjects
    refine normalize_of_isPropertyMap (isPropertyMap_iff.mpr ⟨hne, fun field hfield => ?_⟩)
    refine ⟨fun hknown => hplain ⟨field, hfield, ?_⟩, hobjects field hfield⟩
    exact mem_keywords_of_mem_documentKeys field.1 hknown

/-- A full schema that limits the names of properties. -/
def nameLimit : List (String × Json) := [("propertyNames", .obj [("maxLength", .ofInt 3)])]

/-- A limit on names is taken for a property of that name, and a longer name is accepted. -/
theorem documents_enforced_iff_nameLimit :
    ¬ EnforcedAsWritten (.obj nameLimit) ∧
      validate (.obj nameLimit) "\x7b\"amount\":5\x7d" = .ok () ∧
      validateBy (.obj nameLimit) "\x7b\"amount\":5\x7d" ≠ .ok () ∧
      EnforcedAsWritten (.obj (("type", .str "object") :: nameLimit)) := by
  obtain ⟨henforced, hmisread⟩ := (documents_enforced_iff nameLimit).1 (by decide)
  have hnot : ¬ EnforcedAsWritten (.obj nameLimit) :=
    fun h => absurd (henforced.mp h) (by decide)
  refine ⟨hnot, ?_, by decide +kernel, ?_⟩
  · rw [(hmisread hnot).2 _ [("amount", .ofInt 5)] (by decide +kernel) (by decide)]
    decide +kernel
  · exact ((documents_enforced_iff (("type", .str "object") :: nameLimit)).1 (by decide)).1.mpr
      (by decide)

/-- Not every schema that uses a keyword is enforced as it is written. -/
theorem not_documents_enforced :
    ¬ ∀ fields, IsDocument fields → EnforcedAsWritten (.obj fields) := by
  intro hall
  have hself := normalize_eq_self_iff.mp (enforcedAsWritten_iff.mp (hall nameLimit (by decide)))
  exact absurd hself (by decide)

end TaskEngine.Schema
