import TaskEngine.Catalog.CloneUrl
import TaskEngine.Catalog.Record
import TaskEngine.Config

/-!
# Runners

A runner names the image that task commands run in and the repository that they run on. Its token
is never part of its record: it lives in the secret of the same name. The address and the branch go
into a shell command unquoted, so neither may hold blanks or characters that mean something to a
shell.
-/

namespace TaskEngine

/-- An execution environment. -/
structure Runner where
  /-- The unique name. -/
  name : String
  /-- The image that commands run in. -/
  image : String
  /-- The repository that is cloned. -/
  gitUrl : String
  /-- The branch that is cloned; empty for the default. -/
  branch : String
  /-- The token of the repository. Reads show a stand-in. -/
  token : Option String
  deriving DecidableEq, Repr

namespace Runner

/-- The branch of a runner that names none. -/
def defaultBranch : String := "main"

/-- The key of the token in the secret of a runner. -/
def tokenKey : String := "token"

/-- The branch that is cloned. -/
def effectiveBranch (r : Runner) : String := if r.branch.isEmpty then defaultBranch else r.branch

/-- Characters that mean something to a shell. -/
def shellMetacharacters : List Char :=
  [';', '&', '|', '\x60', '$', '(', ')', '<', '>', '\\', '\'', '"']

/-- Whether a text would not survive a shell unquoted. -/
def hasShellSyntax (text : String) : Bool :=
  text.toList.any fun c => Text.isBlankChar c || shellMetacharacters.contains c

/-- What is wrong with the fields other than the name. -/
def findings (r : Runner) : List String :=
  (if Text.isBlank r.image then ["image must not be empty"] else []) ++
    (if Text.isBlank r.gitUrl then ["gitURL must not be empty"]
    else if hasShellSyntax r.gitUrl then
      ["gitURL must not contain whitespace or shell metacharacters"]
    else []) ++
    (if hasShellSyntax r.branch then
      ["branch must not contain whitespace or shell metacharacters"]
    else [])

/-- Refuse a malformed definition: the name first, then everything else at once. -/
def validate (r : Runner) : Outcome Unit := do
  Name.demand r.name
  if r.findings.isEmpty then .ok ()
  else .error (.validation ("invalid runner '" ++ r.name ++ "'") r.findings)

/-- Whether a record describes a runner. -/
def isRecord (record : Record) : Bool := (record.filled? "image").isSome

/-- The record of a runner, without its token. -/
def toRecord (r : Runner) : Record :=
  Dict.ofList [("name", r.name), ("image", r.image), ("gitURL", r.gitUrl),
    ("branch", r.effectiveBranch)]

/-- The runner that a record describes. -/
def ofRecord (name : String) (record : Record) : Runner :=
  let branch := record.field "branch"
  { name, image := record.field "image", gitUrl := record.field "gitURL"
    branch := if branch.isEmpty then defaultBranch else branch, token := none }

def rules : List Decode.Rule :=
  [.required "name" Decode.text, .required "image" Decode.text, .required "gitURL" Decode.text,
    .defaulted "branch" Decode.text, .nullable "token" Decode.text]

/-- Read a runner. -/
def decode (j : Json) : Decoded Runner := do
  let f ← Decode.record "struct Runner" rules j
  return {
    name := ← f.get "name" Decode.text
    image := ← f.get "image" Decode.text
    gitUrl := ← f.get "gitURL" Decode.text
    branch := ← f.getD "branch" Decode.text ""
    token := ← f.find "token" Decode.text }

/-- The JSON form; an absent token is left out. -/
def encode (r : Runner) : Json :=
  .obj ([("name", .str r.name), ("image", .str r.image), ("gitURL", .str r.gitUrl),
    ("branch", .str r.branch)] ++ (r.token.map fun t => ("token", Json.str t)).toList)

end Runner

end TaskEngine
