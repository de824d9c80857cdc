import TaskEngine.Workload.Extraction

/-!
# Metrics

Four events are counted: launches by kind, synchronous waits by how they ended, results by what was
found, and rejected input. The length of a wait is measured too.
-/

namespace TaskEngine

/-- How a workload was launched. -/
inductive LaunchMode where
  | sync
  | async
  | cron
  | deployment
  deriving DecidableEq, Repr

/-- The name of a launch mode. -/
def LaunchMode.name : LaunchMode → String
  | .sync => "sync"
  | .async => "async"
  | .cron => "cron"
  | .deployment => "deployment"

/-- How a wait for a job ended. -/
inductive WaitEnd where
  /-- The job is finished. -/
  | completed
  /-- The deadline passed. -/
  | timedOut
  /-- A status could not be read. -/
  | error
  deriving DecidableEq, Repr

/-- The name of the end of a wait. -/
def WaitEnd.name : WaitEnd → String
  | .completed => "completed"
  | .timedOut => "timed_out"
  | .error => "error"

/-- An event that is counted. -/
inductive Metric where
  /-- A workload was launched. -/
  | launched (mode : LaunchMode)
  /-- A wait ended after some milliseconds. -/
  | waited (result : WaitEnd) (millis : Nat)
  /-- A log was scanned for a result; the outcome is given by its name. -/
  | extracted (outcome : String)
  /-- Input was rejected. -/
  | rejected
  deriving DecidableEq, Repr

/-- What an event adds to a series of measurements. -/
inductive Sample where
  /-- One more occurrence. -/
  | occurrence
  /-- A duration in milliseconds. -/
  | duration (millis : Nat)
  deriving DecidableEq, Repr

/-- A series of measurements: its name, and the key and text of its label. -/
structure Series where
  name : String
  label : Option (String × String)
  deriving DecidableEq, Repr

namespace Metric

/-- The key of the label for kinds. -/
def modeLabel : String := "mode"

/-- The key of the label for outcomes. -/
def outcomeLabel : String := "outcome"

/-- The series that an event adds to, with what it adds. -/
def samples : Metric → List (Series × Sample)
  | .launched mode => [(⟨"kriten_invocations_total", some (modeLabel, mode.name)⟩, .occurrence)]
  | .waited result millis =>
    [(⟨"kriten_sync_waits_total", some (outcomeLabel, result.name)⟩, .occurrence),
      (⟨"kriten_sync_wait_seconds", some (outcomeLabel, result.name)⟩, .duration millis)]
  | .extracted outcome =>
    [(⟨"kriten_result_extractions_total", some (outcomeLabel, outcome)⟩, .occurrence)]
  | .rejected => [(⟨"kriten_validation_rejections_total", none⟩, .occurrence)]

end Metric

end TaskEngine
