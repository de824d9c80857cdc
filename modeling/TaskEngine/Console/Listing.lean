import TaskEngine.Catalog.Runner
import TaskEngine.Catalog.Task
import TaskEngine.Console.Invocation
import TaskEngine.Console.Table
import TaskEngine.Workload.Job

/-!
# Printed listings

Runners, tasks and jobs as a listing prints them, in every form of output. Clone addresses are shown
without their user part, and the state of a job has a colour on lines for people. An empty listing
says so, except in JSON text.
-/

namespace TaskEngine.Console

/-- A colour of the terminal. -/
inductive Colour where
  | red
  | green
  | yellow
  | blue
  deriving DecidableEq, Repr

namespace Colour

/-- The number of a colour. -/
def code : Colour → Nat
  | .red => 31
  | .green => 32
  | .yellow => 33
  | .blue => 34

/-- The number of the standard colour. -/
def standardCode : Nat := 39

/-- The sequence that switches to a colour. -/
def switch (code : Nat) : String := "\x1b[" ++ toString code ++ "m"

/-- A text in a colour. -/
def paint (c : Colour) (text : String) : String := switch c.code ++ text ++ switch standardCode

/-- The colour of a state. -/
def ofState : JobState → Colour
  | .succeeded => .green
  | .failed => .red
  | .running => .blue
  | .submitted => .yellow

end Colour

/-- The name of a state in its colour. -/
def paintedState (s : JobState) : String := (Colour.ofState s).paint s.name

/-- How the members of a listing are shown. -/
structure ListingForm (α : Type) where
  /-- What the members are called. -/
  members : String
  /-- The JSON form. -/
  encode : α → Json
  /-- The line for people. -/
  line : α → String
  /-- The headers of the table. -/
  headers : List String
  /-- The cells of the table. -/
  cells : α → List String

/-- A listing in a form of output. -/
def ListingForm.render {α : Type} (f : ListingForm α) (format : OutputFormat) (members : List α) :
    String :=
  match format with
  | .json => (Json.arr (members.map f.encode)).pretty
  | .text =>
    if members.isEmpty then "No " ++ f.members ++ " found"
    else Text.joinWith "\n" (members.map f.line)
  | .table =>
    if members.isEmpty then "No " ++ f.members ++ " found"
    else (Table.mk f.headers (members.map f.cells)).render

/-- Runners. -/
def ListingForm.runners : ListingForm Runner where
  members := "runners"
  encode := Runner.encode
  line r := "  " ++ r.name ++ " " ++ r.image ++ " (" ++ r.effectiveBranch ++ ")"
  headers := ["Name", "Image", "Repository", "Branch"]
  cells r := [r.name, r.image, CloneUrl.redacted r.gitUrl, r.effectiveBranch]

/-- Tasks. -/
def ListingForm.tasks : ListingForm TaskSummary where
  members := "tasks"
  encode := TaskSummary.encode
  line t := "  " ++ t.name ++ " [" ++ t.runner ++ "] " ++ t.command
  headers := ["Name", "Runner", "Command"]
  cells t := [t.name, t.runner, t.command]

/-- Jobs. -/
def ListingForm.jobs : ListingForm JobSummary where
  members := "jobs"
  encode := JobSummary.encode
  line j := "  " ++ j.id ++ " " ++ paintedState j.state ++ " (" ++ j.owner ++ ")"
  headers := ["Job ID", "Owner", "State", "Started"]
  cells j :=
    [j.id, j.owner, j.state.name, (j.startTime.map Instant.displaySeconds).getD ""]

end TaskEngine.Console
