import TaskEngine.Cluster.Relay
import TaskEngine.Cluster.Stores
import TaskEngine.Console.Execution

/-!
# The program

The command line of the engine. The program opens no connection of its own: every request to the
cluster leaves as one line of JSON text on standard error, and its reply is read as one line from
standard input, so that any relay can stand between the two. Audit entries go to standard error as
well. Standard output holds nothing but what a command prints.
-/

namespace TaskEngine.Program

open Console

/-- Write one tagged line of JSON text to standard error. -/
def report (tag : String) (content : Json) : IO Unit := do
  (← IO.getStderr).putStrLn (Json.object [(tag, content)]).compact
  (← IO.getStderr).flush

/-- Put a request to the relay. -/
def exchange (request : Cluster.HttpRequest) : IO Cluster.HttpReply := do
  report "request" request.encode
  let line ← (← IO.getStdin).getLine
  match (Json.read? line).map Cluster.HttpReply.decode with
  | some (.ok reply) => return reply
  | _ => return .absent

/-- Have a conversation with the cluster. -/
def converse {α : Type} (conversation : Cluster.Conversation α) : IO (Outcome α) :=
  conversation.perform exchange

/-- Sleep until the clock shows a time. -/
def sleepUntil (due : Nat) : IO Nat := do
  let now ← IO.monoMsNow
  if now < due then IO.sleep (min (due - now) 0xFFFFFFFF).toUInt32
  IO.monoMsNow

/-- Answer a request of a procedure by the cluster in a namespace. -/
def answer (namespaceName : String) : (r : Request) → IO r.Reply
  | .catalog call => converse (Cluster.answerCatalog namespaceName call)
  | .secrets call => converse (Cluster.answerSecrets namespaceName call)
  | .workloads call => converse (Cluster.answerWorkloads namespaceName call)
  | .record entry =>
    let line := entry.logLine
    report "audit" (Json.object [("level", .str line.level), ("fields", Json.ofTexts line.fields)])
  | .count _ => pure ()
  | .clock => IO.monoMsNow
  | .sleepUntil due => sleepUntil due

/-- The variables that the program looks at. -/
def environment : IO Environment := do
  let names := EngineConfig.variableNames ++ Invocation.substitutes.map (·.2)
  let values ← names.mapM fun name => return (← IO.getEnv name).map (name, ·)
  return Dict.ofList (values.filterMap id)

/-- Say why nothing is done. -/
def refuse (reason : String) : IO UInt32 := do
  (← IO.getStderr).putStrLn ("Error: " ++ reason)
  return 1

/-- Carry out an invocation. -/
def carryOut (i : Invocation) (env : Environment) : IO UInt32 := do
  match settings i.namespaceName env with
  | .error e => refuse e.message
  | .ok config =>
    match ← (i.execute config).perform (answer config.namespaceName) with
    | .error e => refuse e.message
    | .ok (.error reason) => refuse reason
    | .ok (.ok printout) =>
      for remark in printout.remarks do (← IO.getStderr).putStrLn remark
      (← IO.getStdout).putStr printout.output
      return 0

end TaskEngine.Program

/-- Carry out what the arguments ask for. -/
def main (arguments : List String) : IO UInt32 := do
  let env ← TaskEngine.Program.environment
  match TaskEngine.Console.Invocation.read arguments env with
  | .ok invocation => TaskEngine.Program.carryOut invocation env
  | .error e =>
    if e.isAnswer then
      (← IO.getStdout).putStrLn e.message
      return 0
    else
      (← IO.getStderr).putStrLn e.message
      return 2
