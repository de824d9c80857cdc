import TaskEngine.Proofs.Cluster.Bytes

/-!
# Stored texts in their JSON form

A map of texts and a map of bytes are JSON objects: metadata with a name, and the entries in some
order. Other fields, further metadata among them, may stand beside as long as they are of their
types. What an object carries is read from every such form, and what the engine writes is of this
form.
-/

namespace TaskEngine.Cluster

open Decode

/-! ## Parts of an object -/

/-- Fields of an object of a name. -/
structure Named (rules : List Rule) (name : String) (fields : List (String × Json)) : Prop where
  conforms : Conforms rules fields
  named : ∃ metadata, Dict.lookup "metadata" fields = some (.obj metadata) ∧
    Dict.lookup "name" metadata = some (.str name)

/-- A field that lists the bindings of a dictionary; it may be left out if there are none. -/
def HeldIn {α : Type} (write : α → Json) (d : Dict α) : Option Json → Prop
  | some j => Lists write d j
  | none => d = ∅

theorem Meta.oneName_rules : OneName Meta.rules := by
  simp [OneName, Meta.rules, Rule.nullable]

theorem ConfigMap.oneName_rules : OneName ConfigMap.rules := by
  simp [OneName, ConfigMap.rules, typeRules, Rule.nullable, Rule.defaulted]

theorem Secret.oneName_rules : OneName Secret.rules := by
  simp [OneName, Secret.rules, typeRules, Rule.nullable, Rule.defaulted]

/-- The name of metadata that were read. -/
theorem Meta.name_of_decode {fields : List (String × Json)} {m : Meta} {name : String}
    (h : Meta.decode (.obj fields) = .ok m)
    (hname : Dict.lookup "name" fields = some (.str name)) : m.name = some name := by
  obtain ⟨found, hfound, h⟩ := Outcome.bind_eq_ok.mp h
  obtain ⟨read, hread, h⟩ := Outcome.bind_eq_ok.mp h
  have hget : found.get? "name" = some (.str name) := by
    rw [← hname]
    exact get?_of_objectFields Meta.oneName_rules hfound List.mem_cons_self
  have hgiven : Fields.find found "name" text = .ok (some name) := by
    rw [Fields.find, hget]
    rfl
  obtain rfl : some name = read := Except.ok.inj (hgiven.symm.trans hread)
  simp only [Outcome.bind_eq_ok] at h
  obtain ⟨_, -, _, -, _, -, _, -, _, -, _, -, _, -, _, -, h⟩ := h
  cases h
  rfl

section Fields

variable {rules : List Rule} {name : String} {fields : List (String × Json)} {found : Fields}

/-- The metadata of an object of a name are read. -/
theorem Named.exists_metadata (h : Named rules name fields)
    (hrule : Rule.nullable "metadata" Meta.decode ∈ rules)
    (hfound : found.get? "metadata" = Dict.lookup "metadata" fields) :
    ∃ m, Fields.find found "metadata" Meta.decode = .ok (some m) ∧ m.name = some name := by
  obtain ⟨metadata, hmetadata, hname⟩ := h.named
  obtain ⟨read, hread⟩ := h.conforms.exists_find _ _ hrule hfound
  have hfind : Fields.find found "metadata" Meta.decode =
      (Meta.decode (.obj metadata)).map some := by
    rw [Fields.find, hfound, hmetadata]
    exact optional_obj Meta.decode metadata
  rw [hfind] at hread ⊢
  cases hdecode : Meta.decode (.obj metadata) with
  | error e =>
    rw [hdecode] at hread
    cases hread
  | ok m => exact ⟨m, rfl, Meta.name_of_decode hdecode hname⟩

/-- An object of a kind is no report. -/
theorem Named.kind_ne (h : Named rules name fields) (kind : String)
    (hrule : Rule.defaulted "kind" (constant kind) ∈ rules) (hkind : "Status" ≠ kind) :
    (Json.obj fields).field? "kind" ≠ some (.str "Status") := by
  intro hreport
  have hcheck : (constant kind (.str "Status")).map (fun _ => ()) = .ok () :=
    h.conforms.checks _ hrule _ (Dict.mem_of_lookup hreport)
  have hrefused : constant kind (.str "Status") =
      .error (.value (describe (.str "Status")) kind) := if_neg hkind
  rw [hrefused] at hcheck
  cases hcheck

/-- The entries of an object are read. -/
theorem HeldIn.exists_find {α : Type} {write : α → Json} {d : Dict α} {key : String}
    (h : HeldIn write d (Dict.lookup key fields)) (read : Json → Decoded α)
    (hread : ∀ a, read (write a) = .ok a) (hfound : found.get? key = Dict.lookup key fields) :
    ∃ held, Fields.find found key (dict read) = .ok held ∧ held.getD ∅ = d := by
  rw [Fields.find, hfound]
  cases hlookup : Dict.lookup key fields with
  | none =>
    rw [hlookup] at h
    exact ⟨none, rfl, h.symm⟩
  | some j =>
    rw [hlookup] at h
    have hdict := dict_of_lists hread h
    obtain ⟨entries, -, rfl⟩ := h
    refine ⟨some d, ?_, rfl⟩
    change Decode.optional (dict read) _ = _
    rw [optional_obj, hdict]
    rfl

/-- Written entries are in their field. -/
theorem heldIn_of_written {α : Type} (write : α → Json) (held : Option (Dict α))
    {found : Option Json} (h : found = held.map fun d => Json.ofDict (d.map write)) :
    HeldIn write (held.getD ∅) found := by
  cases held with
  | none => exact h ▸ rfl
  | some d => exact h ▸ lists_ofDict write d

/-- Written entries are of the type of their field. -/
theorem check_of_written {α : Type} (read : Json → Decoded α) (write : α → Json)
    (hread : ∀ a, read (write a) = .ok a) (key : String) {held : Option (Dict α)} {value : Json}
    (h : (held.map fun d => Json.ofDict (d.map write)) = some value) :
    (Rule.nullable key (dict read)).check value = .ok () := by
  obtain ⟨d, -, rfl⟩ := Option.map_eq_some_iff.mp h
  change (Decode.optional (dict read) (.obj _)).map _ = _
  rw [optional_obj, ← Json.ofDict, dict_of_lists hread (lists_ofDict write d)]
  rfl

end Fields

/-! ## Maps of texts -/

/-- The JSON form of a map of texts with a name and a record. -/
def ConfigMap.Carries (name : String) (record : Record) (j : Json) : Prop :=
  ∃ fields, j = .obj fields ∧ Named ConfigMap.rules name fields ∧
    HeldIn .str record (Dict.lookup "data" fields)

/-- A map of texts is read with its name and its record. -/
theorem ConfigMap.exists_decode {name : String} {record : Record} {j : Json}
    (h : ConfigMap.Carries name record j) :
    ∃ m, ConfigMap.decode j = .ok m ∧ m.metadata.name = some name ∧ m.record = record := by
  obtain ⟨fields, rfl, hnamed, hdata⟩ := h
  obtain ⟨found, hread, hfound⟩ := hnamed.conforms.exists_objectFields ConfigMap.oneName_rules
  obtain ⟨metadata, hmetadata, hname⟩ :=
    hnamed.exists_metadata (by simp [rules])
      (hfound (.nullable "metadata" Meta.decode) (by simp [rules]))
  obtain ⟨held, hheld, hrecord⟩ := hdata.exists_find text (fun _ => rfl)
    (hfound (.nullable "data" (dict text)) (by simp [rules]))
  refine ⟨{ metadata, data := held }, ?_, hname, hrecord⟩
  rw [ConfigMap.decode, objectRecord, hread]
  simp only [bind, Except.bind, hmetadata, hheld]
  rfl

theorem ConfigMap.Carries.kind_ne {name : String} {record : Record} {j : Json}
    (h : ConfigMap.Carries name record j) : j.field? "kind" ≠ some (.str "Status") := by
  obtain ⟨fields, rfl, hnamed, -⟩ := h
  exact hnamed.kind_ne kind (by simp [rules, typeRules]) (by decide)

/-- A map of texts is written with its name and its record. -/
theorem ConfigMap.carries_encode (name : String) (data : Option Record) :
    ConfigMap.Carries name (data.getD ∅) (encode { metadata := { name := some name }, data }) := by
  have hget := get?_objectOf (typeFields coreVersion kind ++
    [("metadata", some (Meta.encode { name := some name })), ("data", data.map Json.ofTexts)])
    (by simp [typeFields])
  refine ⟨_, rfl, ⟨conforms_entries ?_ ?_, [("name", .str name)], hget "metadata", rfl⟩, ?_⟩
  · simp only [rules, typeRules, List.cons_append, List.nil_append, List.forall_mem_cons]
    refine ⟨fun value h => ?_, fun value h => ?_, fun value h => ?_, fun value h => ?_, by simp⟩
    · cases (hget "apiVersion").symm.trans h
      rfl
    · cases (hget "kind").symm.trans h
      rfl
    · cases (hget "metadata").symm.trans h
      rfl
    · exact check_of_written text .str (fun _ => rfl) "data" ((hget "data").symm.trans h)
  · simp [rules, typeRules, Rule.defaulted, Rule.nullable]
  · exact heldIn_of_written .str data (hget "data")

/-! ## Maps of bytes -/

/-- The JSON form of a map of bytes with a name, bytes, and texts that are still to be folded in. -/
def Secret.Carries (name : String) (bytes : Dict (List UInt8)) (texts : Record) (j : Json) : Prop :=
  ∃ fields, j = .obj fields ∧ Named Secret.rules name fields ∧
    HeldIn encodeBytes bytes (Dict.lookup "data" fields) ∧
    HeldIn .str texts (Dict.lookup "stringData" fields)

/-- A map of bytes is read with its name, its bytes and its texts. -/
theorem Secret.exists_decode {name : String} {bytes : Dict (List UInt8)} {texts : Record} {j : Json}
    (h : Secret.Carries name bytes texts j) :
    ∃ s, Secret.decode j = .ok s ∧ s.metadata.name = some name ∧ s.data.getD ∅ = bytes ∧
      s.stringData.getD ∅ = texts := by
  obtain ⟨fields, rfl, hnamed, hdata, htexts⟩ := h
  obtain ⟨found, hread, hfound⟩ := hnamed.conforms.exists_objectFields Secret.oneName_rules
  obtain ⟨metadata, hmetadata, hname⟩ :=
    hnamed.exists_metadata (by simp [rules])
      (hfound (.nullable "metadata" Meta.decode) (by simp [rules]))
  obtain ⟨type, htype⟩ := hnamed.conforms.exists_find "type" text (by simp [rules])
    (hfound (.nullable "type" text) (by simp [rules]))
  obtain ⟨held, hheld, hbytes⟩ := hdata.exists_find decodeBytes decodeBytes_encodeBytes
    (hfound (.nullable "data" (dict decodeBytes)) (by simp [rules]))
  obtain ⟨folded, hfolded, hsubmitted⟩ := htexts.exists_find text (fun _ => rfl)
    (hfound (.nullable "stringData" (dict text)) (by simp [rules]))
  refine ⟨{ metadata, type, data := held, stringData := folded }, ?_, hname, hbytes, hsubmitted⟩
  rw [Secret.decode, objectRecord, hread]
  simp only [bind, Except.bind, hmetadata, htype, hheld, hfolded]
  rfl

theorem Secret.Carries.kind_ne {name : String} {bytes : Dict (List UInt8)} {texts : Record}
    {j : Json} (h : Secret.Carries name bytes texts j) :
    j.field? "kind" ≠ some (.str "Status") := by
  obtain ⟨fields, rfl, hnamed, -, -⟩ := h
  exact hnamed.kind_ne kind (by simp [rules, typeRules]) (by decide)

/-- A map of bytes is written with its name, its bytes and its texts. -/
theorem Secret.carries_encode (name : String) (type : Option String)
    (data : Option (Dict (List UInt8))) (stringData : Option Record) :
    Secret.Carries name (data.getD ∅) (stringData.getD ∅)
      (encode { metadata := { name := some name }, type, data, stringData }) := by
  have hget := get?_objectOf (typeFields coreVersion kind ++
    [("metadata", some (Meta.encode { name := some name })), ("type", type.map .str),
      ("data", data.map fun d => Json.ofDict (d.map encodeBytes)),
      ("stringData", stringData.map Json.ofTexts)])
    (by simp [typeFields])
  refine ⟨_, rfl, ⟨conforms_entries ?_ ?_, [("name", .str name)], hget "metadata", rfl⟩, ?_, ?_⟩
  · simp only [rules, typeRules, List.cons_append, List.nil_append, List.forall_mem_cons]
    refine ⟨fun value h => ?_, fun value h => ?_, fun value h => ?_, fun value h => ?_,
      fun value h => ?_, fun value h => ?_, by simp⟩
    · cases (hget "apiVersion").symm.trans h
      rfl
    · cases (hget "kind").symm.trans h
      rfl
    · cases (hget "metadata").symm.trans h
      rfl
    · have htype : type.map Json.str = some value := (hget "type").symm.trans h
      obtain ⟨given, -, rfl⟩ := Option.map_eq_some_iff.mp htype
      rfl
    · exact check_of_written decodeBytes encodeBytes decodeBytes_encodeBytes "data"
        ((hget "data").symm.trans h)
    · exact check_of_written text .str (fun _ => rfl) "stringData"
        ((hget "stringData").symm.trans h)
  · simp [rules, typeRules, Rule.defaulted, Rule.nullable]
  · exact heldIn_of_written encodeBytes data (hget "data")
  · exact heldIn_of_written .str stringData (hget "stringData")

/-- The form in which a map of bytes is shown, with no texts left. -/
def Secret.Shown (name : String) (bytes : Dict (List UInt8)) (j : Json) : Prop :=
  Secret.Carries name bytes ∅ j

/-- The form in which a map of bytes is submitted: its texts are folded into its bytes. -/
def Secret.Submitted (name : String) (folded : Dict (List UInt8)) (j : Json) : Prop :=
  ∃ bytes texts, Secret.Carries name bytes texts j ∧
    folded = bytes.insertAll (texts.map utf8Bytes).toList

/-- What is written for a secret is submitted with the bytes of its texts. -/
theorem Secret.submitted_ofRecord (name : String) (secret : Record) :
    Secret.Submitted name (secret.map utf8Bytes) (encode (.ofRecord name secret)) := by
  refine ⟨∅, secret, Secret.carries_encode name (some opaqueType) none (some secret), ?_⟩
  exact (Dict.ofList_eq fun _ _ => Dict.mem_toList).symm

end TaskEngine.Cluster
