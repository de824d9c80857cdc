import TaskEngine.Catalog.Record

/-!
# Secret updates

Stored secret values are never shown: a stand-in takes their place. An update names, per key, the
stand-in to keep the stored value, the empty text to remove the key, or a new value; keys that it
does not name stay as they are.
-/

namespace TaskEngine.Secret

/-- What is shown in place of every stored value. -/
def standIn : String := "************"

/-- Apply one entry of an update. -/
def applyEntry (secret : Record) (entry : String × String) : Record :=
  if entry.2 = standIn then secret
  else if entry.2 = "" then secret.erase entry.1
  else secret.insert entry.1 entry.2

/-- The secret after an update. -/
def merge (current desired : Record) : Record := desired.toList.foldl applyEntry current

/-- The secret as it is shown: its keys, with every value hidden. -/
def redact (secret : Record) : Record := secret.map fun _ => standIn

/-- What an update did to the stored secret. -/
inductive UpdateOutcome where
  /-- Nothing had to be written. -/
  | unchanged
  /-- There was none before. -/
  | created
  /-- It was replaced. -/
  | updated
  /-- No key was left. -/
  | deleted
  deriving DecidableEq, Repr

/-- The name of an outcome. -/
def UpdateOutcome.name : UpdateOutcome → String
  | .unchanged => "Unchanged"
  | .created => "Created"
  | .updated => "Updated"
  | .deleted => "Deleted"

end TaskEngine.Secret
