import TaskEngine.Config

/-!
# Arguments of a command line

A grammar tells which options, which positional argument and which commands a command line may hold.
Arguments are read from the left. An option and its value may be attached to each other; a value on
its own has to be the next argument and may not look like an option. A value is judged only once
something other than its value follows, so the first fault reported need not be the leftmost one.
What is given twice is refused. After a double dash everything is positional.
-/

namespace TaskEngine.Console

/-- Why a command line is not carried out. Requests for help count among the reasons. -/
inductive UsageError where
  /-- An option or a positional argument that the grammar does not have. -/
  | unknownArgument
  /-- A value that is not one of the values of an option, or no value at all. -/
  | invalidValue
  /-- A value that is no number in range. -/
  | unreadableValue
  /-- The positional argument is absent. -/
  | missingArgument
  /-- A command that the grammar does not have. -/
  | unknownCommand
  /-- Options are given, but no command. -/
  | missingCommand
  /-- An argument is given twice. -/
  | repeatedArgument
  /-- A value is attached to an option that takes none. -/
  | surplusValue
  /-- Help is asked for. -/
  | help
  /-- The version is asked for. -/
  | version
  /-- Nothing is given at all. -/
  | overview
  deriving DecidableEq, Repr

namespace UsageError

/-- Whether the command line asked for just this. -/
def isAnswer : UsageError → Bool
  | .help | .version => true
  | _ => false

end UsageError

/-- Which values an option takes. -/
inductive ValueRule where
  /-- Any text. -/
  | text
  /-- One of these texts. -/
  | oneOf (texts : List String)
  /-- A natural number of at most this many bits. -/
  | number (bits : Nat)
  deriving DecidableEq, Repr

/-- Judge a value. -/
def ValueRule.check (rule : ValueRule) (value : String) : Except UsageError Unit :=
  match rule with
  | .text => .ok ()
  | .oneOf texts => if value ∈ texts then .ok () else .error .invalidValue
  | .number bits =>
    match Environment.readNumber bits value with
    | .ok _ => .ok ()
    | .error _ => .error .unreadableValue

/-- What an option does. -/
inductive OptionEffect where
  /-- It takes a value. -/
  | value (rule : ValueRule)
  /-- It stands for itself. -/
  | flag
  /-- It answers the command line at once. -/
  | answer (reason : UsageError)
  deriving DecidableEq, Repr

/-- An option. -/
structure CommandOption where
  /-- Its name after two dashes. -/
  name : String
  /-- Its letter after one dash. -/
  letter : Option Char
  /-- What it does. -/
  effect : OptionEffect
  deriving DecidableEq, Repr

/-- The arguments that a command line may hold. -/
structure Grammar where
  /-- The options. -/
  options : List CommandOption
  /-- The name of the positional argument. -/
  positional : Option String := none
  /-- The names of the commands. -/
  commands : List String := []
  deriving Repr

/-- An argument that is read but not judged yet. -/
structure PendingValue where
  /-- The name of the option or of the positional argument. -/
  name : String
  /-- The value, once it is read. -/
  value : Option String
  /-- Which values are taken. -/
  rule : ValueRule
  deriving DecidableEq, Repr

/-- The arguments that have been read. -/
structure Collected where
  /-- The judged values under the names of their arguments. -/
  values : Dict String := ∅
  /-- The argument read last, if it still has to be judged. -/
  pending : Option PendingValue := none

namespace Collected

/-- Take a value that is complete. -/
def put (c : Collected) (name value : String) (rule : ValueRule) : Except UsageError Collected :=
  if c.values.contains name then .error .repeatedArgument
  else do
    rule.check value
    return { c with values := c.values.insert name value }

/-- Judge the argument read last. -/
def settle (c : Collected) : Except UsageError Collected :=
  match c.pending with
  | none => .ok c
  | some { value := none, .. } => .error .invalidValue
  | some { name, value := some value, rule } =>
    { c with pending := none }.put name value rule

/-- Whether the next argument may be the value of an option. -/
def isAwaiting (c : Collected) : Bool := c.pending.any (·.value.isNone)

/-- Whether an argument has been read. -/
def holds (c : Collected) (name : String) : Bool :=
  c.values.contains name || c.pending.any (·.name == name)

/-- Give an argument to the option that waits for its value. -/
def supply (c : Collected) (value : String) : Collected :=
  { c with pending := c.pending.map ({ · with value := some value }) }

/-- Leave an argument to be judged later. -/
def postpone (c : Collected) (name : String) (value : Option String) (rule : ValueRule) :
    Except UsageError Collected := do
  let c ← c.settle
  return { c with pending := some { name, value, rule } }

end Collected

/-- The text under which a flag counts as given. -/
def givenFlag : String := "true"

namespace CommandOption

/-- Apply an option with the value that is attached to it. -/
def apply (o : CommandOption) (attached : Option String) (c : Collected) :
    Except UsageError Collected :=
  match o.effect, attached with
  | .value rule, some value => do (← c.settle).put o.name value rule
  | .value rule, none => c.postpone o.name none rule
  | .flag, none => do (← c.settle).put o.name givenFlag .text
  | .answer reason, none => do
    let _ ← c.settle
    throw reason
  | .flag, some _ | .answer _, some _ => .error .surplusValue

end CommandOption

namespace Grammar

/-- The mark between a name and its attached value. -/
def valueMark : Char := '='

/-- Read an option that is written out, without its dashes. -/
def readNamed (g : Grammar) (c : Collected) (argument : List Char) : Except UsageError Collected :=
  let name := String.ofList (argument.takeWhile (· ≠ valueMark))
  let attached := match argument.dropWhile (· ≠ valueMark) with
    | [] => none
    | _ :: value => some (String.ofList value)
  match g.options.find? (·.name == name) with
  | some o => o.apply attached c
  | none => .error .unknownArgument

/-- Read options that are written as letters, without the dash. The letters after an option with a
value are its value. -/
def readLetters (g : Grammar) (c : Collected) : List Char → Except UsageError Collected
  | [] => .ok c
  | letter :: rest =>
    match g.options.find? (·.letter == some letter) with
    | none => .error .unknownArgument
    | some o =>
      match o.effect, rest with
      | .value _, [] => o.apply none c
      | .value _, first :: later =>
        o.apply (some (String.ofList (if first = valueMark then later else rest))) c
      | .flag, _ | .answer _, _ => do g.readLetters (← o.apply none c) rest

/-- Read a positional argument. -/
def readPositional (g : Grammar) (c : Collected) (trailing : Bool) (argument : String) :
    Except UsageError Collected :=
  match g.positional with
  | some name =>
    if c.holds name then .error .unknownArgument else c.postpone name (some argument) .text
  | none =>
    if g.commands.isEmpty || (trailing && g.commands.contains argument) then
      .error .unknownArgument
    else .error .unknownCommand

/-- The argument after which all arguments are positional. -/
def trailingMark : String := "--"

/-- Read arguments up to their end or to a command, which comes back with those after it. -/
def read (g : Grammar) (trailing : Bool) (c : Collected) :
    List String → Except UsageError (Collected × Option (String × List String))
  | [] => .ok (c, none)
  | argument :: rest =>
    if trailing then do g.read true (← g.readPositional c true argument) rest
    else if !c.isAwaiting && g.commands.contains argument then .ok (c, some (argument, rest))
    else if argument = trailingMark then g.read true c rest
    else
      match argument.toList with
      | '-' :: '-' :: named => do g.read false (← g.readNamed c named) rest
      | '-' :: letter :: letters => do
        g.read false (← g.readLetters c (letter :: letters)) rest
      | _ =>
        if c.isAwaiting then g.read false (c.supply argument) rest
        else do g.read false (← g.readPositional c false argument) rest

end Grammar

end TaskEngine.Console
