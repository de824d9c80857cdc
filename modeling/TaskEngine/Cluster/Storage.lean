import TaskEngine.Cluster.Meta
import TaskEngine.Text.Base64

/-!
# Stored texts of the cluster

The catalog and the secrets of the engine are objects of the cluster too: a map of texts, and a map of
bytes that a writer may also fill with texts.
-/

namespace TaskEngine.Cluster

/-- A map of texts. -/
structure ConfigMap where
  metadata : Meta := {}
  data : Option (Dict String) := none
  deriving DecidableEq

/-- A map of bytes. -/
structure Secret where
  metadata : Meta := {}
  /-- The kind of contents. -/
  type : Option String := none
  data : Option (Dict (List UInt8)) := none
  /-- Texts that the cluster folds into the data on writing. -/
  stringData : Option (Dict String) := none
  deriving DecidableEq

/-- The version of the interface that both belong to. -/
def coreVersion : String := "v1"

namespace ConfigMap

/-- The kind of the object. -/
def kind : String := "ConfigMap"

def rules : List Decode.Rule :=
  typeRules coreVersion kind ++
    [.nullable "metadata" Meta.decode, .nullable "data" (Decode.dict Decode.text)]

/-- Read a map of texts. -/
def decode (j : Json) : Decoded ConfigMap := do
  let f ← Decode.objectRecord kind rules j
  return {
    metadata := (← f.find "metadata" Meta.decode).getD {}
    data := ← f.find "data" (Decode.dict Decode.text) }

/-- The JSON form. -/
def encode (m : ConfigMap) : Json :=
  Json.objectOf (typeFields coreVersion kind ++ [("metadata", some m.metadata.encode),
    ("data", m.data.map Json.ofTexts)])

end ConfigMap

namespace Secret

/-- The kind of the object. -/
def kind : String := "Secret"

/-- Read bytes in text form. -/
def decodeBytes : Json → Decoded (List UInt8)
  | .str s =>
    match Base64.decode? s.toList with
    | some bytes => .ok bytes
    | none => .error (.value (Decode.describe (.str s)) "a base64-encoded string")
  | j => Decode.mismatch "a base64-encoded string" j

/-- Bytes in text form. -/
def encodeBytes (bytes : List UInt8) : Json := .str (String.ofList (Base64.encode bytes))

def rules : List Decode.Rule :=
  typeRules coreVersion kind ++
    [.nullable "metadata" Meta.decode, .nullable "type" Decode.text,
      .nullable "data" (Decode.dict decodeBytes),
      .nullable "stringData" (Decode.dict Decode.text)]

/-- Read a map of bytes. -/
def decode (j : Json) : Decoded Secret := do
  let f ← Decode.objectRecord kind rules j
  return {
    metadata := (← f.find "metadata" Meta.decode).getD {}
    type := ← f.find "type" Decode.text
    data := ← f.find "data" (Decode.dict decodeBytes)
    stringData := ← f.find "stringData" (Decode.dict Decode.text) }

/-- The JSON form. -/
def encode (s : Secret) : Json :=
  Json.objectOf (typeFields coreVersion kind ++ [("metadata", some s.metadata.encode),
    ("type", s.type.map .str), ("data", s.data.map fun d => Json.ofDict (d.map encodeBytes)),
    ("stringData", s.stringData.map Json.ofTexts)])

end Secret

end TaskEngine.Cluster
