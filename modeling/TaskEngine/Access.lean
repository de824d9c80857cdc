import TaskEngine.Json.Decode

/-!
# Principals and what they may see

Authorization is decided outside the engine. What reaches it is a principal, and for listings the
identifiers that the caller may see: all of them, or an explicit list. A list that contains the
wildcard stands for all.
-/

namespace TaskEngine

/-- Who acts. -/
structure Principal where
  /-- The user name. -/
  name : String
  /-- Where the user is known from. -/
  provider : String
  deriving DecidableEq, Repr

/-- The kinds of resources that access is granted on. -/
inductive ResourceKind where
  | runners
  | tasks
  | jobs
  | cronJobs
  | deployments
  deriving DecidableEq, Repr

/-- The name of a kind. -/
def ResourceKind.name : ResourceKind → String
  | .runners => "runners"
  | .tasks => "tasks"
  | .jobs => "jobs"
  | .cronJobs => "cronjobs"
  | .deployments => "deployments"

/-- Every kind, in order. -/
def ResourceKind.all : List ResourceKind := [.runners, .tasks, .jobs, .cronJobs, .deployments]

/-- What a principal wants to do with a resource. -/
inductive Access where
  | read
  | write
  deriving DecidableEq, Repr

/-- The name of an access. -/
def Access.name : Access → String
  | .read => "read"
  | .write => "write"

/-- The identifiers that a listing may show. -/
inductive AuthorizedIds where
  /-- Everything. -/
  | all
  /-- These and no others. -/
  | only (ids : List String)
  deriving DecidableEq, Repr

namespace AuthorizedIds

/-- The identifier that stands for all. -/
def wildcard : String := "*"

/-- The scope of a list of granted identifiers. -/
def ofList (ids : List String) : AuthorizedIds :=
  if wildcard ∈ ids then .all else .only ids

/-- Whether nothing may be shown. -/
def isEmpty : AuthorizedIds → Bool
  | .all => false
  | .only ids => ids.isEmpty

/-- Whether an identifier may be shown. -/
def permits (scope : AuthorizedIds) (id : String) : Bool :=
  match scope with
  | .all => true
  | .only ids => id ∈ ids

end AuthorizedIds

/-- The policy of a local installation: everyone may do everything. -/
structure AllowAll where
  deriving DecidableEq, Repr

/-- Under the open policy every access is granted. -/
def AllowAll.authorizes (_ : AllowAll) (_ : Principal) (_ : ResourceKind) (_ : Access) (_ : String) :
    Bool := true

/-- Under the open policy every identifier is visible. -/
def AllowAll.visible (_ : AllowAll) (_ : Principal) (_ : ResourceKind) : AuthorizedIds := .all

/-! ## JSON forms -/

/-- Pick the member of an enumeration with this name. -/
def Decode.member {α : Type} (members : List α) (name : α → String) (j : Json) : Decoded α := do
  let found ← Decode.variant (members.map name) j
  match members.find? fun m => name m == found with
  | some m => return m
  | none => .error (.variant found (members.map name))

namespace Principal

def rules : List Decode.Rule := [.required "name" Decode.text, .required "provider" Decode.text]

/-- Read a principal. -/
def decode (j : Json) : Decoded Principal := do
  let fields ← Decode.record "struct Principal" rules j
  return { name := ← fields.get "name" Decode.text, provider := ← fields.get "provider" Decode.text }

/-- The JSON form. -/
def encode (p : Principal) : Json := Json.object [("name", .str p.name), ("provider", .str p.provider)]

end Principal

/-- Read a kind of resource. -/
def ResourceKind.decode : Json → Decoded ResourceKind := Decode.member ResourceKind.all ResourceKind.name

/-- Read an access. -/
def Access.decode : Json → Decoded Access := Decode.member [.read, .write] Access.name

namespace AuthorizedIds

/-- Read a scope: the word `all`, or an object with the list under `only`. -/
def decode : Json → Decoded AuthorizedIds
  | .str "all" => .ok .all
  | .str "only" => .error (.type "unit variant" "newtype variant")
  | .obj [("all", .null)] => .ok .all
  | .obj [("all", v)] => Decode.mismatch "unit" v
  | .obj [("only", v)] => (Decode.list Decode.text v).map .only
  | j => do
    let name ← Decode.variant ["all", "only"] j
    .error (.variant name ["all", "only"])

/-- The JSON form. -/
def encode : AuthorizedIds → Json
  | .all => .str "all"
  | .only ids => Json.object [("only", .arr (ids.map .str))]

end AuthorizedIds

end TaskEngine
