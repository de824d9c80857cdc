import TaskEngine.Json.Decode
import TaskEngine.Name

/-!
# Errors of the engine

An error is a cause; its wording is given in one place. Input errors concern names and settings
and occur on their own too; the engine's errors wrap them. Three classes are told apart by the
callers: something is not there, something is malformed, something stands in the way.
-/

namespace TaskEngine

/-- An error in a name or a setting. -/
inductive InputError where
  /-- The text is no resource name. -/
  | invalidName (name : String)
  /-- A setting or argument is malformed. -/
  | invalidInput (message : String)
  /-- A text is no JSON. -/
  | serialization (message : String)
  /-- Something that should not happen did. -/
  | internal (message : String)
  deriving DecidableEq, Repr

namespace InputError

/-- The text of an error. -/
def message : InputError → String
  | .invalidName name =>
    "invalid name '" ++ name ++
      "', should be lowercase alphanumeric characters or '-' and '.'"
  | .invalidInput message => "invalid input: " ++ message
  | .serialization message => "serialization error: " ++ message
  | .internal message => "internal error: " ++ message

end InputError

/-- An error of the engine. -/
inductive EngineError where
  /-- A definition or an input is malformed; the details list the findings. -/
  | validation (message : String) (details : List String)
  /-- There is no resource of this type and name. -/
  | notFound (type name : String)
  /-- There already is a resource of this type and name. -/
  | conflict (type name : String)
  /-- The resource is still used by a dependent one. -/
  | dependency (type dependentType dependent : String)
  /-- A store or the orchestrator failed; `caused` tells whether it gave a reason. -/
  | infrastructure (message : String) (caused : Bool)
  /-- A stored text does not decode. -/
  | serialization (message : String)
  /-- A name or setting is malformed. -/
  | input (error : InputError)
  deriving DecidableEq, Repr

namespace EngineError

/-- The text of an error. -/
def message : EngineError → String
  | .validation message _ => "validation failed: " ++ message
  | .notFound type name => type ++ " not found: " ++ name
  | .conflict type name => type ++ " already exists: " ++ name
  | .dependency type dependentType dependent =>
    type ++ " is bound with " ++ dependentType ++ ": " ++ dependent ++ " , please delete that first"
  | .infrastructure message _ => "infrastructure error: " ++ message
  | .serialization message => "serialization error: " ++ message
  | .input error => error.message

/-- The findings of a validation error. -/
def details : EngineError → List String
  | .validation _ details => details
  | _ => []

/-- Whether something is not there. -/
def isNotFound : EngineError → Bool
  | .notFound .. => true
  | _ => false

/-- Whether a definition, a name or an input is malformed. -/
def isValidation : EngineError → Bool
  | .validation .. | .input (.invalidName _) | .input (.invalidInput _) => true
  | _ => false

/-- Whether an existing resource stands in the way. -/
def isConflict : EngineError → Bool
  | .conflict .. | .dependency .. => true
  | _ => false

/-- Whether the error carries the reason of a failed collaborator. -/
def isCaused : EngineError → Bool
  | .infrastructure _ caused => caused
  | _ => false

/-- A validation error without findings. -/
def malformed (message : String) : EngineError := .validation message []

end EngineError

/-- The result of an engine operation. -/
abbrev Outcome := Except EngineError

/-- The name of a text, or the error that it is none. -/
def ResourceName.ofText (text : String) : Except InputError ResourceName :=
  match ResourceName.ofText? text with
  | some name => .ok name
  | none => .error (.invalidName text)

/-- Read a name, with the error of a text that is none. -/
def ResourceName.decode (j : Json) : Decoded ResourceName := do
  let text ← Decode.text j
  (ResourceName.ofText text).mapError fun e => .refused e.message

/-- The JSON form. -/
def ResourceName.encode (name : ResourceName) : Json := .str name.text

/-- Refuse a text that is no name. -/
def Name.demand (text : String) : Outcome Unit :=
  if Name.isLegal text then .ok () else .error (.input (.invalidName text))

end TaskEngine
