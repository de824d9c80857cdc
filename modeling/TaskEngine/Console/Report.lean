import TaskEngine.Console.Listing

/-!
# Printed results

The result of a job and the answer to a launch, in every form of output. The logs are part of the
JSON text only.
-/

namespace TaskEngine.Console

/-- The lines about a result, for people. -/
def resultLines (r : JobResult) : List String :=
  let s := r.summary
  ["Job: " ++ s.id, "Owner: " ++ s.owner, "State: " ++ paintedState s.state] ++
    (s.startTime.map fun t => "Started: " ++ t.display).toList ++
    (s.completionTime.map fun t => "Completed: " ++ t.display).toList ++
    (r.error.map fun e => "Error: " ++ Colour.red.paint e).toList ++
    (r.data.map fun data => ["Data:", data.pretty]).getD []

/-- The rows of the table of a result. -/
def resultRows (r : JobResult) : List (List String) :=
  let s := r.summary
  [["Job ID", s.id], ["Owner", s.owner], ["State", s.state.name],
    ["Completed", toString s.completed], ["Failed", toString s.failed]] ++
    (r.error.map fun e => ["Error", e]).toList ++
    (r.data.map fun data => ["Data", data.pretty]).toList

/-- A result in a form of output. -/
def renderResult (format : OutputFormat) (r : JobResult) : String :=
  match format with
  | .json => r.encode.pretty
  | .text => Text.trimEnd (Text.joinWith "\n" (resultLines r))
  | .table => (Table.mk ["Field", "Value"] (resultRows r)).render

/-- The answer to a launch in a form of output: the result, once there is one. -/
def renderLaunch (format : OutputFormat) (l : JobLaunch) : String :=
  match l.result, format with
  | _, .json => l.encode.pretty
  | some result, format => renderResult format result
  | none, _ => "Launched job " ++ l.id

end TaskEngine.Console
