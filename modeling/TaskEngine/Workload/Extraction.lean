import TaskEngine.Json.Reader
import TaskEngine.Text.Split

/-!
# Results inside logs

A task reports a result by printing JSON text between two marks, anywhere in its output. The text
between the first mark and the next one is the candidate; line ends and backslashes are taken out of
it before it is read. A candidate that is no JSON text still counts as a result, namely as an object
that says so.
-/

namespace TaskEngine

/-- What scanning a log for a result finds. -/
inductive Extraction where
  /-- There are no two marks. -/
  | absent
  /-- The candidate is JSON text. -/
  | parsed (value : Json)
  /-- The candidate is no JSON text. -/
  | malformed
  deriving DecidableEq

namespace Extraction

/-- The mark on both sides of a result. -/
def mark : String := "^JSON"

/-- What is reported about a candidate that is no JSON text. -/
def unreadable : String := "failed to parse JSON"

/-- Characters that are taken out of a candidate. -/
def isDropped (c : Char) : Bool := c == '\n' || c == '\\'

/-- The text between the first mark and the next one. -/
def span? (text : List Char) : Option (List Char) := do
  let (_, rest) ← Text.cutFirst? mark.toList text
  let (span, _) ← Text.cutFirst? mark.toList rest
  return span

/-- The candidate of a log. -/
def candidate? (text : String) : Option String :=
  (span? text.toList).map fun span => String.ofList (span.filter fun c => !isDropped c)

/-- The result of a log. -/
def ofText (text : String) : Extraction :=
  match candidate? text with
  | none => .absent
  | some candidate =>
    match Json.read? candidate with
    | some value => .parsed value
    | none => .malformed

/-- The data that is stored with a job. -/
def data : Extraction → Option Json
  | .absent => none
  | .parsed value => some value
  | .malformed => some (Json.object [("error", .str unreadable)])

/-- The name of an outcome. -/
def outcome : Extraction → String
  | .absent => "absent"
  | .parsed _ => "parsed"
  | .malformed => "malformed"

end Extraction

end TaskEngine
