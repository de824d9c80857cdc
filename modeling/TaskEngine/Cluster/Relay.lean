import TaskEngine.Cluster.Client

/-!
# Requests and replies as JSON

The JSON forms of requests and replies, by which a relay between the engine and the cluster can pass
them on. A body that is a JSON string stands for that text itself.
-/

namespace TaskEngine.Cluster

/-- The JSON form of a request. No body shows as null. -/
def HttpRequest.encode (r : HttpRequest) : Json :=
  Json.object [("method", .str r.method.name), ("path", .str r.path),
    ("query", Json.ofTexts r.query), ("body", r.body.getD .null)]

/-- The body that a JSON value stands for. -/
def Body.ofJson : Json → Body
  | .str raw => .text raw
  | j => .json j

namespace HttpReply

/-- What stands in for a reply that is not there. -/
def absent : HttpReply := ⟨500, .text ""⟩

def rules : List Decode.Rule :=
  [.required "status" Decode.nat32, .defaulted "body" Decode.any]

/-- Read a reply. -/
def decode (j : Json) : Decoded HttpReply := do
  let f ← Decode.record "struct HttpReply" rules j
  return ⟨← f.get "status" Decode.nat32, .ofJson (← f.getD "body" Decode.any .null)⟩

end HttpReply

end TaskEngine.Cluster
