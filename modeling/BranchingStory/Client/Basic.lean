import BranchingStory.Client.ContentCoding
import BranchingStory.Client.ContentType
import BranchingStory.Client.Redirect
import BranchingStory.Client.Reply
import BranchingStory.Markup.Parser
import BranchingStory.Record.Step

/-!
# The client

A client asks a story server for fragments and feeds them to a parser as they arrive.
The server hands the state of the threads back in headers; the client keeps it, whatever
JSON values it is made of, and sends it with the next choice.  Fragments that answer a
choice are parsed without default choices, and so is the epilogue; the parser's own tail
limit is in force again afterwards.
-/

namespace BranchingStory

/-- A client: the URL of its server, the state of the threads as the server gave it,
whether the last fragment was the epilogue, and the room in which headers are read. -/
structure Client where
  base : Url
  completed : Json
  progress : Json
  final : Bool
  room : Json.Room

namespace Client

/-- A request of a client. -/
structure Request where
  method : Text
  url : Url
  body : Option Text
  deriving Repr, DecidableEq

/-- Why a step fails. -/
inductive Fault where
  /-- The URL of the story is none. -/
  | url (f : Url.Fault)
  /-- The state of the threads holds a number that is not finite. -/
  | notFinite
  /-- The state of the threads holds a string that is no text. -/
  | brokenText
  /-- The host cannot be told in ASCII. -/
  | hostNotAscii
  | lost (l : Loss)
  /-- The URL of the story does not name a kind of address. -/
  | kindless (url : Text)
  /-- The server sends the client on to an address that makes no sense. -/
  | redirect (f : RedirectFault)
  /-- The server answered with a status that is no success. -/
  | status (n : Int)
  /-- A header is no JSON. -/
  | header (f : Json.ReadFault)
  | contentType (f : ContentType.Fault)
  /-- The compressed bytes of a body make no sense. -/
  | coding
  | charset (f : Charset.Fault)
  | parser (f : Parser.Fault)
  deriving Repr, DecidableEq

/-- What a message says about a server that cannot be reached. -/
def unreachable (reason : Text) : Text :=
  ("Cannot connect to story server: " : Text) ++ reason

/-- What a message says about a fault. -/
def Fault.message : Fault → Text
  | url f => f.message
  | notFinite => "Out of range float values are not JSON compliant"
  | brokenText => "a string is no text"
  | hostNotAscii => "the host cannot be told in ASCII"
  | lost .timeout => "Story server timed out"
  | lost (.transport m) => unreachable m
  | lost .unanswered => "there is no reply"
  | lost .headerNotAscii => "a header is not in ASCII"
  | lost (.hostName _) => "the name of the host cannot be read"
  | kindless t => ("unknown url type: " : Text) ++ Text.quoted t
  | redirect (.text f) => unreachable ("Invalid URL in location header: " ++ f.message ++ ".")
  | redirect (.host f) => f.message
  | redirect (.name _) => "the name of the host cannot be read"
  | redirect .notAscii => "the host cannot be told in ASCII"
  | status n => ("Story server returned " : Text) ++ decimalText n
  | header _ => "a header is not JSON"
  | contentType f => f.message
  | coding => "the body cannot be decompressed"
  | charset _ => "the body cannot be decoded"
  | parser _ => "a fragment cannot be parsed"

/-- A client of a server whose URL ends in a slash. -/
def new (room : Json.Room) (base : Url) : Client :=
  ⟨base, .arr [], .obj [], false, room⟩

/-- A client of the server whose URL a text writes; slashes at its end say nothing. -/
def ofText (room : Json.Room) (base : Text) : Except Url.Fault Client := do
  return new room (← (← Url.ofText (base.reverse.dropWhile (· = '/')).reverse).asFolder)

/-- The path of the story. -/
def storyPath : Text := "/api/story"

/-- The request for the story, with a body or without. -/
def storyRequest (c : Client) (method : Text) (body : Option Json) : Except Fault Request := do
  let url ← (c.base.below storyPath).mapError .url
  if body.any Json.hasNonFinite then throw .notFinite
  if body.any Json.hasHalf then throw .brokenText
  if url.host.any fun c => 0x80 ≤ c.toNat then throw .hostNotAscii
  return ⟨method, url, body.map (Json.write .compact)⟩

/-- The request for the opening. -/
def openingRequest (c : Client) : Except Fault Request :=
  c.storyRequest "GET" none

/-- The body that asks for the fragment of a choice. -/
def choiceBody (c : Client) (choice : Text) : Json :=
  .obj [("choice", .str choice), ("completed_threads", c.completed),
    ("character_progress", c.progress)]

/-- The request for the fragment of a choice. -/
def choiceRequest (c : Client) (choice : Text) : Except Fault Request :=
  c.storyRequest "POST" (some (c.choiceBody choice))

/-- A client that has taken the state of the threads from headers.  What was taken before
a faulty header is kept. -/
def adopt (c : Client) (headers : List (Text × Text)) : Except Fault Unit × Client :=
  match (header? headers "x-completed-threads").mapM (Json.readMerged c.room) with
  | .error f => (.error (.header f), c)
  | .ok completed =>
    let c := { c with completed := completed.getD c.completed }
    match (header? headers "x-character-progress").mapM (Json.readMerged c.room) with
    | .error f => (.error (.header f), c)
    | .ok progress =>
      (.ok (),
        { c with
          progress := progress.getD c.progress
          final := header? headers "x-story-final" == some "true" })

/-- What a step gives out: the segments that arrived, what it failed by, if it failed, and
the parser afterwards. -/
structure Arrival where
  segments : List Segment
  fault : Option Fault
  parser : Parser

/-- The arrival of more segments before another one. -/
def Arrival.after (segments : List Segment) (a : Arrival) : Arrival :=
  { a with segments := segments ++ a.segments }

/-- Feeds a decoded piece to a parser, unless it is empty. -/
def feedPiece (p : Parser) (piece : Text) : Except Parser.Fault (List Segment) × Parser :=
  if piece.isEmpty then (.ok [], p) else p.feed piece

/-- Feeds what a decoder gives out to a parser, unless it fails. -/
def feedDecoded (p : Parser) (out : Except Charset.Fault Utf8.Output) : Arrival :=
  match out with
  | .error f => ⟨[], some (.charset f), p⟩
  | .ok out =>
    match feedPiece p (Utf8.mend out) with
    | (.ok segments, p) => ⟨segments, none, p⟩
    | (.error f, p) => ⟨[], some (.parser f), p⟩

/-- Feeds bytes to a parser, unless there are none, and gives what the decoder keeps. -/
def feedBytes (p : Parser) (d : Decoder) (bs : Bytes) : Arrival × Decoder :=
  if bs.isEmpty then (⟨[], none, p⟩, d)
  else
    match d.feed bs with
    | .error f => (feedDecoded p (.error f), d)
    | .ok (out, d) => (feedDecoded p (.ok out), d)

/-- Feeds the chunks of a body to a parser, with its codings undone. -/
def feedBody : Parser → List Coding → Decoder → List Chunk → Arrival
  | p, _, d, [] => feedDecoded p d.finish
  | p, _, _, .lost l :: _ => ⟨[], some (.lost l), p⟩
  | p, cs, d, .bytes bs :: chunks =>
    match if bs.isEmpty then some (bs, cs) else undo cs bs with
    | none => ⟨[], some .coding, p⟩
    | some (bs, cs) =>
      let (a, d) := feedBytes p d bs
      if a.fault.isSome then a else (feedBody a.parser cs d chunks).after a.segments

/-- The text of a URL without a number sign at its end. -/
def shownUrl (u : Url) : Text :=
  let t := u.toText
  if t.getLast? = some '#' then t.dropLast else t

/-- Checks that a response gives what was asked for. -/
def checkResponse (asked : Url) (status : Int) (headers : List (Text × Text)) :
    Except Fault Unit := do
  if !Url.namesKind (shownUrl asked) then throw (.kindless (shownUrl asked))
  if redirectStatuses.contains status then
    if let some location := header? headers "location" then
      (checkLocation asked location).mapError .redirect
  if status < 200 ∨ 300 ≤ status then throw (.status status)

/-- The decoder of a body whose content type may be missing. -/
def decoderOf (contentType : Option Text) : Except Fault Decoder := do
  let charset ← (ContentType.charset contentType).mapError .contentType
  (Decoder.ofCharset charset).mapError .charset

/-- Feeds a body to a parser, with the codings and in the charset that its headers tell. -/
def readBody (p : Parser) (headers : List (Text × Text)) (body : List Chunk) : Arrival :=
  match decoderOf (header? headers "content-type") with
  | .error f => ⟨[], some f, p⟩
  | .ok d => feedBody p (codingsOf headers) d body

/-- Takes in the reply to a request for a URL with a parser that was reset; `fallback` says
whether default choices may be offered. -/
def receive (c : Client) (p : Parser) (fallback : Bool) (asked : Url) : Reply → Arrival × Client
  | .lost l => (⟨[], some (.lost l), p⟩, c)
  | .response status headers body =>
    match (checkResponse asked status headers, c.adopt headers) with
    | (.error f, _) => (⟨[], some f, p⟩, c)
    | (.ok (), .error f, c) => (⟨[], some f, p⟩, c)
    | (.ok (), .ok (), c) =>
      let limit := p.limit
      let p := if c.final || !fallback then { p with limit := .off } else p
      let a := readBody p headers body
      ({ a with parser := { a.parser with limit := limit } }, c)

/-- A step of a client. -/
inductive Step where
  | opening
  | choice (id : Text)
  deriving Repr, DecidableEq

/-- The request of a step. -/
def request (c : Client) : Step → Except Fault Request
  | .opening => c.openingRequest
  | .choice id => c.choiceRequest id

/-- Takes a step: `send` gives the reply to its request. -/
def take {σ : Type} (send : Request → StateM σ Reply) (c : Client) (p : Parser) (step : Step) :
    StateM σ (Arrival × Client) := do
  match c.request step with
  | .error f => return (⟨[], some f, p.reset⟩, c)
  | .ok r => return c.receive p.reset (step == .opening) r.url (← send r)

end Client

end BranchingStory
