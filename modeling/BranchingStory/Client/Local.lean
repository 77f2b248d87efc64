import BranchingStory.Client.Basic
import BranchingStory.Http.Service

/-!
# Clients beside their service

A client may ask the service of its own program.  The service looks at the target of the
URL, and the body of its response arrives in one chunk.
-/

namespace BranchingStory

namespace Client

/-- The request as the service sees it, which reads its body in a room. -/
def Request.toHttp (room : Json.Room) (r : Request) : Http.Request where
  method := r.method
  address := r.url.target
  body := r.body
  contentType := Http.jsonType
  room := room

/-- Sends a request to the service, whose response arrives as `split` cuts it.  The name of
the host has to be readable. -/
def sendSplit (room : Json.Room) (split : Bytes → List Bytes) (r : Request) :
    StateM Store Reply := do
  match r.url.readHost with
  | .error f => return .lost (.hostName f)
  | .ok _ => return .ofResponse split (← Http.answer (r.toHttp room))

/-- Sends a request to the service, whose response arrives at once. -/
def send (room : Json.Room) : Request → StateM Store Reply :=
  sendSplit room fun bs => [bs]

end Client

end BranchingStory
