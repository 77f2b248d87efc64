import BranchingStory.Http.Body
import BranchingStory.Http.Endpoint
import BranchingStory.Text.PlainNumeral

/-!
# The service

How each endpoint is served.  The body of a request is checked before anything else;
then the session key, then the conversation, then what the endpoint itself asks for.
-/

namespace BranchingStory

namespace Http

/-- Refuses a request when a condition holds. -/
def refuseIf (condition : Bool) (status : Nat) (detail : Text) : Handler Unit :=
  if condition then throw (.rejected status detail) else pure ()

/-- The outcome of reading a request. -/
def ofRequest {α : Type} : Except Problem α → Handler α
  | .ok a => pure a
  | .error p => throw p

/-- A response that shows a value without reserved names. -/
def shown (v : Json) : Handler Response :=
  return .json 200 (visible v)

/-- A response that shows a record. -/
def shownRecord {α : Type} [Record α] (a : α) : Handler Response :=
  return .json 200 (Record.toJson a)

/-! ## Sessions and conversations -/

/-- The name of the query field with the session key. -/
def sessionField : Text := "userSession"

/-- The session key of a request. -/
def sessionKey (session : Option Text) : Handler Text :=
  match session.getD [] with
  | [] => throw (.rejected 400 "User session is required")
  | key =>
    match Key.check Key.sessionRole key with
    | .ok key => return key
    | .error f => throw (.rejected 400 f.message)

/-- The conversation with an id, and the key of its session.  One that cannot be read
counts as missing. -/
def load (a : Address) (id : Text) : Handler (Text × Conversation) := do
  let key ← sessionKey (a.field? sessionField)
  match Archive.find? (← get).disk key id with
  | .ok (some c) => return (key, c)
  | .error (.disk f) => throw (.broken (.store (.archive (.disk f))))
  | _ => throw (.rejected 404 "Conversation not found")

/-- A session of the story that goes on from a conversation. -/
def resume (c : Conversation) : Handler Session := do
  return Session.new c.completed c.progress (← ofStore Store.settings).limit none

/-- The turn of a step of a session, and the session afterwards. -/
def played (step : Except Parser.Fault Turn × Session) : Handler (Turn × Session) :=
  match step with
  | (.ok turn, s) => return (turn, s)
  | (.error f, _) => throw (.broken (.parser f))

/-! ## The story -/

/-- A text sent in pieces of the size that the settings name. -/
def stream (t : Text) (headers : Entries Text) : Handler Response := do
  let settings ← ofStore Store.settings
  match PieceSize.ofJson settings.chunkSize with
  | .error f => throw (.broken (.pieceSize f))
  | .ok size =>
    return {
      status := 200
      mediaType := some textType
      headers := ("cache-control", "no-cache") :: headers
      pieces := Text.cut size t
      breakdown := none }

/-- The opening of the story. -/
def serveOpening : Handler Response := do
  let s ← get
  match (Store.openingText.run s) with
  | (.ok t, s) => do
    set s
    stream t []
  | (.error (.opening .absent), _) => throw (.rejected 500 "Failed to load story")
  | (.error f, _) => throw (.broken (.store f))

/-- The route that a request asks for. -/
def routeOf (r : Request) : Handler (Route Str) := do
  let b ← ofRequest (checkedBody r StoryBody.check)
  refuseIf b.choice.isBlankOnly 400 "Choice is required"
  return b.route

/-- The state of the threads of a route, as headers carry it. -/
def stateHeaders (r : Route Str) : Entries Text :=
  [("x-completed-threads", Json.write .header (.arr (r.completed.map .str))),
   ("x-character-progress",
    Json.write .header (.obj (r.progress.map fun e => (e.1, .str e.2.label)))),
   ("x-story-final", if r.final then "true" else "false")]

/-- The JSON form of a route whose names may be no texts.  The names of the entries are
mended, and those that come to be the same are one; completed names stay as they are. -/
def routeJson (r : Route Str) : Json :=
  .obj [("fragment", .str r.fragment), ("completed_threads", .arr (r.completed.map .str)),
    ("character_progress",
      .obj (Entries.ofPairs (r.progress.map fun e => (.text e.1.mended, .str e.2.label)))),
    ("final", .bool r.final)]

/-- The next fragment of the story, with the state of the threads in headers. -/
def serveStory (r : Request) : Handler Response := do
  let route ← routeOf r
  stream route.fragment (stateHeaders route)

/-! ## Conversations -/

/-- The conversations of a session. -/
def serveConversations (a : Address) : Handler Response := do
  let key ← sessionKey (a.field? sessionField)
  let cs ← ofStore (Store.all key)
  shown (.obj [("conversations", Record.listToJson cs)])

/-- The session key that a string is. -/
def strKey : Str → Handler Text
  | .text t => sessionKey (some t)
  | s => throw (.rejected 400 (KeyFault.message ⟨Key.sessionRole, s⟩))

/-- Creates a conversation. -/
def serveCreate (r : Request) : Handler Response := do
  let b ← ofRequest (checkedBody r CreationBody.check)
  refuseIf (b.prompt.isBlankOnly || b.session.isEmpty) 400
    "Initial prompt and user session are required"
  let key ← strKey b.session
  let c ← ofStore (match b.texts? with
    | some (prompt, title) => Store.create key prompt title
    | none => Store.createBroken key)
  shown c.toJson

/-- Deletes all conversations of a session. -/
def serveClear (a : Address) : Handler Response := do
  let key ← sessionKey (a.field? sessionField)
  let n ← ofStore (Store.clear key)
  shown (.obj [("deleted", .int n)])

/-- Exports all conversations of a session. -/
def serveExport (a : Address) : Handler Response := do
  let key ← sessionKey (a.field? sessionField)
  let t ← ofStore (Store.exportText key)
  return {
    status := 200
    mediaType := some jsonType
    headers := []
    pieces := [t]
    breakdown := none }

/-- Revises a conversation. -/
def serveRevise (r : Request) (a : Address) (id : Text) : Handler Response := do
  let b ← ofRequest (checkedBody r RevisionBody.check)
  let (key, _) ← load a id
  let c ← ofStore (match b with
    | some b => Store.revise? key id b.revision
    | none => Store.reviseBroken? key id)
  shown ((c.map Conversation.toJson).getD .null)

/-- Deletes a conversation. -/
def serveDelete (a : Address) (id : Text) : Handler Response := do
  let (key, _) ← load a id
  let _ ← ofStore (Store.delete key id)
  shown (.obj [("success", .bool true)])

/-- The query field with the number of segments of a context. -/
def countField : Text := "maxSegments"

/-- How many segments a context has when the query does not say. -/
def defaultCount : Int := 5

/-- The number of segments that a query asks for. -/
def segmentCount (a : Address) : Except Problem Int :=
  match a.field? countField with
  | none => .ok defaultCount
  | some t =>
    let problem (kind : IssueKind) : Problem :=
      .invalid [⟨[.name "query", .name countField], kind⟩] .null
    match PlainNumeral.read t with
    | .error .malformed => .error (problem .notInteger)
    | .error .tooLong => .error (problem .integerTooLong)
    | .ok n => if n < 0 then .error (problem .tooSmall) else .ok n

/-- The last segments of a conversation. -/
def serveContext (a : Address) (id : Text) : Handler Response := do
  let n ← ofRequest (segmentCount a)
  let (key, _) ← load a id
  let segments ← ofStore (Store.context key id n)
  shown (.obj [("segments", Record.listToJson segments)])

/-- Starts a conversation with the opening of the story. -/
def serveStart (a : Address) (id : Text) : Handler Response := do
  let (key, c) ← load a id
  refuseIf (!c.segments.isEmpty || !c.choices.isEmpty || c.finished) 400
    "Conversation already started"
  let session ← resume c
  let opening ← ofStore Store.openingText
  let (turn, _) ← played (session.begin opening false)
  let _ ← ofStore (Store.revise? key id
    { segments := turn.segments, choices := some turn.choices })
  shownRecord turn

/-- Takes a choice in a conversation.  Of offered choices with the same id the last one
counts. -/
def serveChoose (r : Request) (a : Address) (id : Text) : Handler Response := do
  let choice ← ofRequest (checkedBody r checkChoice)
  let (key, c) ← load a id
  refuseIf choice.isBlankOnly 400 "Choice is required"
  refuseIf c.finished 400 "Story has ended"
  refuseIf c.choices.isEmpty 400 "Conversation has not started"
  match c.choices.reverse.find? (.text ·.id == choice) with
  | none => throw (.rejected 400 "Choice was not offered")
  | some offered =>
    refuseIf offered.disabled 400 "Choice is disabled"
    let session ← resume c
    let (turn, session) ← played (session.choose offered.id)
    let _ ← ofStore (Store.revise? key id
      { segments := turn.segments
        choices := some turn.choices
        selected := offered.id
        completed := some session.completed
        progress := some session.progress
        finished := some session.finished })
    shownRecord turn

/-! ## All endpoints -/

/-- Serves an endpoint. -/
def serve (r : Request) (a : Address) : Endpoint → Handler Response
  | .health => shown (.obj [("status", .str "ok")])
  | .settings => do shown (← ofStore Store.settings).toJson
  | .changeSettings => do
    let fields ← ofRequest (checkedBody r checkFields)
    shown (← ofStore (Store.changeSettings fields)).toJson
  | .opening => serveOpening
  | .story => serveStory r
  | .route => do return .json 200 (routeJson (← routeOf r))
  | .conversations => serveConversations a
  | .create => serveCreate r
  | .clear => serveClear a
  | .exportAll => serveExport a
  | .conversation id => do
    let (_, c) ← load a id
    shown c.toJson
  | .revise id => serveRevise r a id
  | .delete id => serveDelete a id
  | .context id => serveContext a id
  | .start id => serveStart a id
  | .choose id => serveChoose r a id

/-- Answers a request that the service knows. -/
def handle (r : Request) (a : Address) : Handler Response :=
  match Endpoint.lookup r.method a.path with
  | .found e => serve r a e
  | .otherMethod => throw (.rejected 405 "Method Not Allowed")
  | .trailingSlash => return .redirection
  | .missing => throw (.rejected 404 "Not Found")

/-- Answers a request; a problem is answered with its response. -/
def answer (r : Request) : StateM Store Response := do
  match ← (handle r (Address.ofText r.address)).run with
  | .ok response => return response
  | .error problem => return problem.response

end Http

end BranchingStory
