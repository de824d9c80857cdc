import TaskEngine.Config
import TaskEngine.Engine.Procedure
import TaskEngine.Workload.Job

/-!
# Waiting for a job

The status of a job is read at once and then once per interval until the job is finished or the
deadline has passed; the status read last is the result either way. A read that comes late moves the
later ones along with it. The number of reads is bounded by the policy.
-/

namespace TaskEngine

/-- How a wait ended, with the job as read last. -/
inductive WaitOutcome where
  /-- The job is finished. -/
  | completed (job : Cluster.Job)
  /-- The deadline passed. -/
  | timedOut (job : Cluster.Job)
  deriving DecidableEq

namespace WaitOutcome

/-- The job as read last. -/
def job : WaitOutcome → Cluster.Job
  | .completed job | .timedOut job => job

/-- How the wait ended. -/
def result : WaitOutcome → WaitEnd
  | .completed _ => .completed
  | .timedOut _ => .timedOut

end WaitOutcome

/-- How many reads can follow the first one: after that many intervals the deadline has passed. -/
def PollPolicy.laterReads (policy : PollPolicy) : Nat :=
  (policy.deadline + policy.interval - 1) / policy.interval

/-- By how many milliseconds a read may come late without moving the later ones. -/
def PollPolicy.tolerance : Nat := 5

/-- When the next read is due after one that was due and came at the given times. -/
def PollPolicy.nextDue (policy : PollPolicy) (due woken : Nat) : Nat :=
  (if due + PollPolicy.tolerance < woken then woken else due) + policy.interval

namespace Engine

/-- Read the status of a job until it is finished or the deadline has passed. -/
def pollFrom (policy : PollPolicy) (jobId : String) (started : Nat) :
    (laterReads due : Nat) → Procedure WaitOutcome
  | laterReads, due => do
    let woken ← Procedure.sleepUntil due
    let job ← Procedure.workloads (.getJob jobId)
    if (JobSummary.ofCluster job).isFinished then return .completed job
    let now ← Procedure.clock
    if policy.deadline ≤ now - started then return .timedOut job
    match laterReads with
    | 0 => return .timedOut job
    | more + 1 => pollFrom policy jobId started more (policy.nextDue due woken)

/-- Wait for a job. -/
def waitFor (policy : PollPolicy) (jobId : String) : Procedure WaitOutcome := do
  let started ← Procedure.clock
  pollFrom policy jobId started policy.laterReads started

end Engine

end TaskEngine
