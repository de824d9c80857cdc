import TaskEngine.Error
import TaskEngine.Json.Decode
import TaskEngine.Text.Blank

/-!
# Settings of the engine

Settings start from defaults and are overridden by environment variables. A variable that is unset
or blank keeps the default, and padding is trimmed. Settings are checked after all variables are
read: there has to be a namespace, and the poll interval of synchronous launches lies between zero,
exclusive, and the deadline.
-/

namespace TaskEngine

/-- The form of log output. -/
inductive LogFormat where
  | json
  | pretty
  deriving DecidableEq, Repr

/-- The name of a log format. -/
def LogFormat.name : LogFormat → String
  | .json => "json"
  | .pretty => "pretty"

/-- The log format that a text names, in any case and with any padding. -/
def LogFormat.ofText (text : String) : Except InputError LogFormat :=
  match Text.asciiLower (Text.trim text) with
  | "json" => .ok .json
  | "pretty" => .ok .pretty
  | "text" => .ok .pretty
  | other =>
    .error (.invalidInput ("unknown log format '" ++ other ++ "', expected 'json' or 'pretty'"))

/-- How the status of a synchronous launch is polled, in milliseconds. -/
structure PollPolicy where
  /-- The time between two reads. -/
  interval : Nat
  /-- The time after which the status read last is final. -/
  deadline : Nat
  deriving DecidableEq, Repr

/-- Ten reads per second for twenty seconds. -/
def PollPolicy.standard : PollPolicy := ⟨100, 20000⟩

/-- The settings. -/
structure EngineConfig where
  /-- The namespace of every object of the engine. -/
  namespaceName : String
  /-- How many seconds a finished job is kept. -/
  jobsTtlSeconds : Nat
  /-- The image that clones the repository of a runner. -/
  gitImage : String
  /-- How synchronous launches are polled. -/
  syncPoll : PollPolicy
  /-- The form of log output. -/
  logFormat : LogFormat
  deriving DecidableEq, Repr

namespace EngineConfig

/-- The default settings. -/
def standard : EngineConfig := ⟨"kriten", 3600, "bitnami/git", .standard, .pretty⟩

/-- Refuse inconsistent settings. -/
def validate (c : EngineConfig) : Except InputError Unit :=
  if Text.isBlank c.namespaceName then .error (.invalidInput "namespace must not be empty")
  else if c.syncPoll.interval = 0 then
    .error (.invalidInput "sync poll interval must be greater than zero")
  else if c.syncPoll.deadline < c.syncPoll.interval then
    .error (.invalidInput "sync poll interval must not exceed the sync timeout")
  else .ok ()

/-- The time that a finished job is kept, as a signed 32-bit number of seconds. -/
def jobsTtl (c : EngineConfig) : Nat := min c.jobsTtlSeconds 0x7FFFFFFF

end EngineConfig

/-! ## Environment variables -/

/-- The variables of a process. -/
abbrev Environment := Dict String

namespace Environment

/-- The trimmed value of a variable that is set and not blank. -/
def setting? (env : Environment) (name : String) : Option String :=
  match env.get? name with
  | some value => if Text.isBlank value then none else some (Text.trim value)
  | none => none

/-- Why a text is no natural number in range. -/
inductive NumberError where
  | empty
  | invalidDigit
  | tooLarge
  deriving DecidableEq, Repr

/-- The text of a number error. -/
def NumberError.message : NumberError → String
  | .empty => "cannot parse integer from empty string"
  | .invalidDigit => "invalid digit found in string"
  | .tooLarge => "number too large to fit in target type"

/-- Scan decimal digits up to a bound. The first fault from the left is reported. -/
def scanDigits (bound : Nat) (n : Nat) : List Char → Except NumberError Nat
  | [] => .ok n
  | c :: rest =>
    if '0' ≤ c ∧ c ≤ '9' then
      let next := n * 10 + (c.toNat - '0'.toNat)
      if next ≤ bound then scanDigits bound next rest else .error .tooLarge
    else .error .invalidDigit

/-- A natural number of at most `bits` bits; one plus sign may lead. -/
def readNumber (bits : Nat) (text : String) : Except NumberError Nat :=
  match text.toList with
  | [] => .error .empty
  | ['+'] | ['-'] => .error .invalidDigit
  | '+' :: rest => scanDigits (Nat.pow 2 bits - 1) 0 rest
  | cs => scanDigits (Nat.pow 2 bits - 1) 0 cs

/-- The number that a variable is set to. -/
def number? (env : Environment) (name : String) (bits : Nat) : Except InputError (Option Nat) :=
  match env.setting? name with
  | none => .ok none
  | some text =>
    match readNumber bits text with
    | .ok n => .ok (some n)
    | .error e =>
      .error (.invalidInput (name ++ " must be a u" ++ toString bits ++ ": " ++ e.message))

end Environment

namespace EngineConfig

/-- The variable for the namespace. -/
def namespaceVariable : String := "KRITEN_NAMESPACE"

/-- The variable for the seconds that finished jobs are kept. -/
def ttlVariable : String := "KRITEN_JOBS_TTL_SECONDS"

/-- The variable for the image that clones repositories. -/
def gitImageVariable : String := "KRITEN_GIT_IMAGE"

/-- The variable for the time between two reads of a status. -/
def intervalVariable : String := "KRITEN_SYNC_POLL_INTERVAL_MS"

/-- The variable for the longest wait of a synchronous launch. -/
def timeoutVariable : String := "KRITEN_SYNC_TIMEOUT_SECONDS"

/-- The variable for the form of log output. -/
def logFormatVariable : String := "KRITEN_LOG_FORMAT"

/-- Every variable that settings are read from. -/
def variableNames : List String :=
  [namespaceVariable, ttlVariable, gitImageVariable, intervalVariable, timeoutVariable,
    logFormatVariable]

/-- The settings that an environment gives, with the variables read in a fixed order. -/
def ofEnvironment (env : Environment) : Except InputError EngineConfig := do
  let namespaceName := (env.setting? namespaceVariable).getD standard.namespaceName
  let ttl ← env.number? ttlVariable 32
  let gitImage := (env.setting? gitImageVariable).getD standard.gitImage
  let interval ← env.number? intervalVariable 64
  let timeout ← env.number? timeoutVariable 64
  let logFormat ← match env.setting? logFormatVariable with
    | some text => LogFormat.ofText text
    | none => .ok standard.logFormat
  let config : EngineConfig := {
    namespaceName, gitImage, logFormat
    jobsTtlSeconds := ttl.getD standard.jobsTtlSeconds
    syncPoll := {
      interval := interval.getD standard.syncPoll.interval
      deadline := (timeout.map (· * 1000)).getD standard.syncPoll.deadline } }
  config.validate
  return config

end EngineConfig

/-! ## JSON forms -/

namespace PollPolicy

/-- A duration in milliseconds that fits 64 bits; longer ones show as the longest. -/
def encodeMillis (n : Nat) : Json := .ofInt (min n 0xFFFFFFFFFFFFFFFF : Nat)

def rules : List Decode.Rule :=
  [.required "interval" Decode.nat64, .required "deadline" Decode.nat64]

/-- Read a policy. -/
def decode (j : Json) : Decoded PollPolicy := do
  let f ← Decode.record "struct PollPolicy" rules j
  return ⟨← f.get "interval" Decode.nat64, ← f.get "deadline" Decode.nat64⟩

/-- The JSON form. -/
def encode (p : PollPolicy) : Json :=
  Json.object [("interval", encodeMillis p.interval), ("deadline", encodeMillis p.deadline)]

end PollPolicy

namespace EngineConfig

def rules : List Decode.Rule :=
  [.required "namespace" Decode.text, .required "jobs_ttl_seconds" Decode.nat32,
    .required "git_image" Decode.text, .required "sync_poll" PollPolicy.decode]

/-- Read settings. The log format is not part of the JSON form. -/
def decode (j : Json) : Decoded EngineConfig := do
  let f ← Decode.record "struct EngineConfig" rules j
  return {
    namespaceName := ← f.get "namespace" Decode.text
    jobsTtlSeconds := ← f.get "jobs_ttl_seconds" Decode.nat32
    gitImage := ← f.get "git_image" Decode.text
    syncPoll := ← f.get "sync_poll" PollPolicy.decode
    logFormat := standard.logFormat }

/-- The JSON form. -/
def encode (c : EngineConfig) : Json :=
  Json.object [("namespace", .str c.namespaceName), ("jobs_ttl_seconds", .ofInt c.jobsTtlSeconds),
    ("git_image", .str c.gitImage), ("sync_poll", c.syncPoll.encode)]

end EngineConfig

end TaskEngine
