import TaskEngine.Engine.Call

/-!
# Record stores in memory

The catalog and the secret store in memory: records under names, and a count of the writes that were
made. A record is created under a free name and replaced under a taken one. Removing a record of the
catalog demands that it is there, removing a secret does not.
-/

namespace TaskEngine

/-- Demand that a name is free for a new object, and taken for the replacement of one. -/
def WriteMode.demand (mode : WriteMode) (resource name : String) (taken : Bool) : Outcome Unit :=
  match mode, taken with
  | .create, true => .error (.conflict resource name)
  | .update, false => .error (.notFound resource name)
  | _, _ => .ok ()

/-- Records under names. -/
structure RecordStore where
  /-- The records. -/
  records : Dict Record := ∅
  /-- How many writes were made. -/
  writes : Nat := 0
  deriving DecidableEq

namespace RecordStore

/-- Write a record. -/
def put (s : RecordStore) (resource name : String) (record : Record) (mode : WriteMode) :
    Outcome RecordStore := do
  mode.demand resource name (s.records.contains name)
  return { records := s.records.insert name record, writes := s.writes + 1 }

/-- Answer a call on the catalog. Removals are not counted. -/
def answerCatalog : (call : CatalogCall) → RecordStore → Outcome call.Reply × RecordStore
  | .get name, s => (.ok (s.records.get? name), s)
  | .list, s => (.ok s.records.toList, s)
  | .put name record mode, s =>
    match s.put CatalogCall.resource name record mode with
    | .ok s => (.ok record, s)
    | .error e => (.error e, s)
  | .delete name, s =>
    if s.records.contains name then (.ok (), { s with records := s.records.erase name })
    else (.error (.notFound CatalogCall.resource name), s)

/-- Answer a call on the secret store. Removals of a secret are counted as writes. -/
def answerSecrets : (call : SecretCall) → RecordStore → Outcome call.Reply × RecordStore
  | .get name, s => (.ok (s.records.get? name), s)
  | .put name secret mode, s =>
    match s.put SecretCall.resource name secret mode with
    | .ok s => (.ok (), s)
    | .error e => (.error e, s)
  | .delete name, s =>
    if s.records.contains name then
      (.ok (), { records := s.records.erase name, writes := s.writes + 1 })
    else (.ok (), s)

end RecordStore

end TaskEngine
