import BranchingStory.Http.Message
import BranchingStory.Url.Label

/-!
# Replies

What comes back to a client for a request: a response whose body arrives in chunks of
bytes, or a connection that is lost before the response or within its body.
-/

namespace BranchingStory

namespace Client

/-- How a connection is lost. -/
inductive Loss where
  | timeout
  | transport (message : Text)
  /-- Nothing answers the request. -/
  | unanswered
  /-- A header of the response is not in ASCII. -/
  | headerNotAscii
  /-- The name of the host cannot be read. -/
  | hostName (f : Label.Fault)
  deriving Repr, DecidableEq

/-- What arrives of a body. -/
inductive Chunk where
  | bytes (bs : Bytes)
  | lost (l : Loss)
  deriving Repr, DecidableEq

/-- What comes back for a request. -/
inductive Reply where
  | response (status : Int) (headers : List (Text × Text)) (body : List Chunk)
  | lost (l : Loss)
  deriving Repr, DecidableEq

/-- The value of a header, whose name is in small letters; a repeated header gives all
values, joined by commas. -/
def header? (headers : List (Text × Text)) (name : Text) : Option Text :=
  match (headers.filter fun h => Text.lower h.1 == name).map (·.2) with
  | [] => none
  | vs => some (List.intercalate [',', ' '] vs)

/-- Whether a header is in ASCII. -/
def isAsciiHeader (h : Text × Text) : Bool :=
  h.1.all (·.toNat < 0x80) && h.2.all (·.toNat < 0x80)

/-- The reply that is a response, whose headers have to be in ASCII. -/
def Reply.ofParts (status : Int) (headers : List (Text × Text)) (body : List Chunk) : Reply :=
  if headers.all isAsciiHeader then .response status headers body else .lost .headerNotAscii

/-- The reply that is a response of the service, arriving in the chunks into which `split`
cuts its bytes. -/
def Reply.ofResponse (split : Bytes → List Bytes) (r : Http.Response) : Reply :=
  .response r.status
    (r.headers ++ (r.mediaType.map fun t => (("content-type" : Text), t)).toList)
    ((split (Utf8.encode r.body)).map .bytes)

end Client

end BranchingStory
