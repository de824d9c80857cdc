import TaskEngine.Error
import TaskEngine.Schedule.Field

/-!
# Schedules

A schedule is one of five macros or a text of five words. The words are read as consecutive fields
after a zero for the seconds; blanks between fields are skipped but not required, so a word may run
over into a seventh field for the year. Every field has to be used up, and every item has to fit
its field.
-/

namespace TaskEngine.Schedule

/-- The names that stand for a whole schedule. -/
def macros : List String := ["@yearly", "@monthly", "@weekly", "@daily", "@hourly"]

/-- The fields that a schedule has, seconds first. -/
def requiredFields : List Field :=
  [.second, .minute, .hour, .dayOfMonth, .month, .dayOfWeek]

/-- Read consecutive fields. -/
def readFields? : List Field → List Char → Option (List (List Item) × List Char)
  | [], cs => some ([], cs)
  | field :: fields, cs => do
    let (items, rest) ← readItems? field.allowsQuestion cs
    let (others, rest) ← readFields? fields rest
    some (items :: others, rest)

/-- Whether the items of each field fit it. -/
def fit (fields : List Field) (items : List (List Item)) : Bool :=
  (fields.zip items).all fun (field, items) => items.all (·.fits field)

/-- Whether a text with leading seconds is a schedule: six fields, or seven with the year. -/
def acceptsExpression (cs : List Char) : Bool :=
  match readFields? requiredFields cs with
  | none => false
  | some (items, rest) =>
    match readItems? Field.year.allowsQuestion rest with
    | some (years, rest) =>
      rest.isEmpty && fit (requiredFields ++ [.year]) (items ++ [years])
    | none => rest.isEmpty && fit requiredFields items

/-- The number of words of a schedule. -/
def wordCount : Nat := 5

/-- The error for a schedule that does not parse. -/
def invalid : EngineError :=
  .validation "invalid schedule" ["Invalid expression: Invalid cron expression."]

/-- Refuse a text that is no schedule. -/
def validate (text : String) : Outcome Unit :=
  let text := Text.trim text
  if text.isEmpty then .error (.malformed "schedule must not be empty")
  else if text.toList.head? = some '@' then
    if text ∈ macros then .ok () else .error invalid
  else if (Text.words text).length ≠ wordCount then
    .error (.malformed
      "schedule must have 5 fields (minute hour day-of-month month day-of-week)")
  else if acceptsExpression ('0' :: ' ' :: text.toList) then .ok ()
  else .error invalid

end TaskEngine.Schedule
