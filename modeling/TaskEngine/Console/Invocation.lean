import TaskEngine.Access
import TaskEngine.Console.Arguments

/-!
# Invocations

What the command line asks for: one command with its arguments, under a user, in a namespace and in
a form of output. The namespace and the user fall back to variables of the environment, where an
empty variable counts as set. The engine then takes its settings from the environment too, and the
namespace of the command line outweighs them.
-/

namespace TaskEngine.Console

/-- The form of output. -/
inductive OutputFormat where
  /-- Lines for people. -/
  | text
  /-- Indented JSON text. -/
  | json
  /-- A drawn table. -/
  | table
  deriving DecidableEq, Repr

namespace OutputFormat

/-- The name of a form. -/
def name : OutputFormat → String
  | .text => "text"
  | .json => "json"
  | .table => "table"

/-- Every form. -/
def all : List OutputFormat := [.text, .json, .table]

/-- The form with a name. -/
def ofName? (name : String) : Option OutputFormat := all.find? (·.name == name)

end OutputFormat

/-- What to do. -/
inductive Command where
  /-- List the runners. -/
  | runners
  /-- List the tasks. -/
  | tasks
  /-- List the jobs. -/
  | jobs
  /-- Launch a task, and wait for its result up to some seconds. -/
  | run (task : String) (vars : Option String) (wait : Bool) (timeout : Nat)
  /-- Print the logs of a job, of one owner's only if an owner is given. -/
  | logs (jobId : String) (owner : Option String)
  /-- Print the result of a job, of one owner's only if an owner is given. -/
  | result (jobId : String) (owner : Option String)
  /-- Print the input schema of a task. -/
  | schema (task : String)
  deriving DecidableEq, Repr

/-- What the command line asks for. -/
structure Invocation where
  /-- The namespace, if it is not left to the settings. -/
  namespaceName : Option String
  /-- The user that launched jobs belong to. -/
  user : String
  /-- The form of output. -/
  format : OutputFormat
  /-- What to do. -/
  command : Command
  deriving DecidableEq, Repr

/-! ## The grammar -/

/-- The option that asks for help. -/
def helpOption : CommandOption := ⟨"help", some 'h', .answer .help⟩

/-- The judged arguments of a command. -/
abbrev Given := Dict String

/-- A command as it is written: its arguments, and what they make. -/
structure CommandForm where
  name : String
  grammar : Grammar
  /-- The command that arguments make, unless the positional one is absent. -/
  build : Given → Option Command

namespace CommandForm

/-- A command without arguments. -/
def plain (name : String) (command : Command) : CommandForm :=
  ⟨name, { options := [helpOption] }, fun _ => some command⟩

/-- A command on one job. -/
def onJob (name : String) (command : String → Option String → Command) : CommandForm where
  name := name
  grammar := { options := [⟨"owner", none, .value .text⟩, helpOption], positional := some "job_id" }
  build given := (given.get? "job_id").map fun jobId => command jobId (given.get? "owner")

/-- The seconds that a launch waits unless it is told otherwise. -/
def standardTimeout : Nat := 300

/-- A command that launches a task. -/
def launching : CommandForm where
  name := "run"
  grammar := {
    options := [⟨"vars", none, .value .text⟩, ⟨"wait", some 'w', .flag⟩,
      ⟨"timeout", none, .value (.number 64)⟩, helpOption]
    positional := some "task" }
  build given := (given.get? "task").map fun task =>
    let timeout := (given.get? "timeout").bind fun text => (Environment.readNumber 64 text).toOption
    .run task (given.get? "vars") (given.contains "wait") (timeout.getD standardTimeout)

/-- A command that prints a schema. -/
def onSchema : CommandForm where
  name := "schema"
  grammar := { options := [helpOption], positional := some "task" }
  build given := (given.get? "task").map .schema

/-- Every command. -/
def all : List CommandForm :=
  [plain "runners" .runners, plain "tasks" .tasks, plain "jobs" .jobs, launching,
    onJob "logs" .logs, onJob "result" .result, onSchema]

/-- Read the arguments of a command. -/
def read (form : CommandForm) (arguments : List String) : Except UsageError Command := do
  let (collected, _) ← form.grammar.read false {} arguments
  let collected ← collected.settle
  match form.build collected.values with
  | some command => return command
  | none => throw .missingArgument

end CommandForm

/-- The command that explains commands. -/
def helpCommand : String := "help"

/-- The names of all commands. -/
def commandNames : List String := CommandForm.all.map (·.name) ++ [helpCommand]

/-- The answer to a request for help on commands: one that exists, and nothing more. -/
def helpOn : List String → UsageError
  | [] => .help
  | [name] => if name ∈ commandNames then .help else .unknownCommand
  | _ :: _ :: _ => .unknownCommand

namespace Invocation

/-- What may stand in front of the command. -/
def grammar : Grammar where
  options :=
    [⟨"namespace", some 'n', .value .text⟩, ⟨"user", none, .value .text⟩,
      ⟨"format", none, .value (.oneOf (OutputFormat.all.map OutputFormat.name))⟩, helpOption,
      ⟨"version", some 'V', .answer .version⟩]
  commands := commandNames

/-- The variables that stand in for options. -/
def substitutes : List (String × String) :=
  [("namespace", EngineConfig.namespaceVariable), ("user", "KRITEN_USER")]

/-- The user of an invocation that names none. -/
def standardUser : String := "kriten-cli"

/-- Fill in one option from the environment, unless it is given. -/
def fillIn (env : Environment) (given : Given) (option : String × String) : Given :=
  match given.get? option.1, env.get? option.2 with
  | none, some value => given.insert option.1 value
  | _, _ => given

/-- Read the arguments after the name of the program. The arguments of the command are judged before
the option in front of it that is still pending. -/
def read (arguments : List String) (env : Environment) : Except UsageError Invocation := do
  let (collected, found) ← grammar.read false {} arguments
  let command? ← match found with
    | none => pure none
    | some (name, rest) =>
      match CommandForm.all.find? (·.name == name) with
      | some form => some <$> form.read rest
      | none => throw (helpOn rest)
  let given := substitutes.foldl (fillIn env) (← collected.settle).values
  match command? with
  | none => throw (if given.isEmpty then .overview else .missingCommand)
  | some command =>
    return {
      namespaceName := given.get? "namespace"
      user := (given.get? "user").getD standardUser
      format := ((given.get? "format").bind OutputFormat.ofName?).getD .text
      command }

/-- Where the users of the command line are known from. -/
def provider : String := "cli"

/-- Who acts. -/
def principal (i : Invocation) : Principal := ⟨i.user, provider⟩

end Invocation

namespace UsageError

/-- How commands are written. -/
def synopsis : String :=
  "Usage: kriten [-n NAMESPACE] [--user USER] [--format text|json|table] COMMAND\n\n" ++
    "Commands:\n" ++
    "  runners                List runners\n" ++
    "  tasks                  List tasks\n" ++
    "  jobs                   List jobs\n" ++
    "  run TASK [--vars JSON] [-w] [--timeout SECONDS]\n" ++
    "                         Launch a task\n" ++
    "  logs JOB [--owner USER]    Print the logs of a job\n" ++
    "  result JOB [--owner USER]  Print the result of a job\n" ++
    "  schema TASK            Print the input schema of a task"

/-- What is said about a command line that is not carried out. -/
def message : UsageError → String
  | .unknownArgument => "error: unexpected argument"
  | .invalidValue => "error: a value is invalid or absent"
  | .unreadableValue => "error: a value is no number in range"
  | .missingArgument => "error: a required argument is absent"
  | .unknownCommand => "error: unrecognized command"
  | .missingCommand => "error: a command is required"
  | .repeatedArgument => "error: an argument is given more than once"
  | .surplusValue => "error: an option takes no value"
  | .help | .overview => synopsis
  | .version => "kriten 0.1.0"

end UsageError

/-! ## Settings -/

/-- Why there are no settings. -/
inductive SettingsError where
  /-- The variables of the environment do not give settings. -/
  | environment (error : InputError)
  /-- The namespace is unfit. -/
  | namespaceName (error : InputError)
  deriving DecidableEq, Repr

/-- The text of an error. -/
def SettingsError.message : SettingsError → String
  | .environment e => "invalid KRITEN_* environment: " ++ e.message
  | .namespaceName e => "invalid namespace: " ++ e.message

/-- The settings of the engine in a namespace that may be given. -/
def settings (namespaceName : Option String) (env : Environment) :
    Except SettingsError EngineConfig := do
  let config ← (EngineConfig.ofEnvironment env).mapError .environment
  let config := match namespaceName with
    | some name => { config with namespaceName := name }
    | none => config
  config.validate.mapError .namespaceName
  return config

/-- How a launch that waits for some seconds is polled: as often as the engine does, and once at
least. -/
def waitPolicy (engine : PollPolicy) (timeout : Nat) : PollPolicy :=
  { engine with deadline := max (timeout * 1000) engine.interval }

end TaskEngine.Console
