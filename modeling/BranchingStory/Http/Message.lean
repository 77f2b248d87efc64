import BranchingStory.Store.Basic
import BranchingStory.Store.PieceSize

/-!
# Messages

A request names a method and an address and may carry a body.  A response has a status,
headers and a body in pieces.  A request that cannot be served ends in a `Problem`, which
has a response of its own.
-/

namespace BranchingStory

namespace Http

/-- A request; `room` is the room in which its body is read. -/
structure Request where
  method : Text
  address : Text
  body : Option Text
  contentType : Text
  room : Json.Room := .least
  deriving Repr, DecidableEq

/-- An error that the service gives no account of. -/
inductive Breakdown where
  | store (f : Store.Fault)
  | parser (f : Parser.Fault)
  | pieceSize (f : PieceSize.Fault)
  /-- An infinite number, or none, was to be written as JSON. -/
  | notFinite
  /-- A string that is no text was to be written as JSON. -/
  | brokenText
  deriving Repr, DecidableEq

/-- A response; `breakdown` tells what broke down, if anything did. -/
structure Response where
  status : Nat
  mediaType : Option Text
  headers : Entries Text
  pieces : List Text
  breakdown : Option Breakdown
  deriving Repr, DecidableEq

/-- Why a request is not served. -/
inductive Problem where
  | rejected (status : Nat) (detail : Text)
  /-- There are issues with the body or the query, which was read as `input`. -/
  | invalid (issues : List Issue) (input : Json)
  | broken (b : Breakdown)

/-- The media type of JSON. -/
def jsonType : Text := "application/json"

/-- The media type of texts. -/
def textType : Text := "text/plain; charset=utf-8"

namespace Response

/-- The response to a request that broke down. -/
def ofBreakdown (b : Breakdown) : Response where
  status := 500
  mediaType := some textType
  headers := []
  pieces := ["Internal Server Error"]
  breakdown := some b

/-- A JSON response; a value with a number that is not finite breaks down, and so does one
with a string that is no text. -/
def json (status : Nat) (v : Json) : Response :=
  if v.hasNonFinite then ofBreakdown .notFinite
  else if v.hasHalf then ofBreakdown .brokenText
  else
    { status := status
      mediaType := some jsonType
      headers := []
      pieces := [Json.write .compact v]
      breakdown := none }

/-- A redirection to the same address without the slashes at its end. -/
def redirection : Response where
  status := 307
  mediaType := none
  headers := []
  pieces := []
  breakdown := none

/-- The body of a response. -/
def body (r : Response) : Text :=
  r.pieces.flatten

end Response

/-- What a reserved name begins with; members with reserved names are not shown. -/
def reservedLead : Text := "_sa"

mutual

/-- A value without members whose names are reserved. -/
def visible : Json → Json
  | .arr vs => .arr (visibleItems vs)
  | .obj ms => .obj (visibleMembers ms)
  | v => v

/-- The items of an array without members whose names are reserved. -/
def visibleItems : List Json → List Json
  | [] => []
  | v :: vs => visible v :: visibleItems vs

/-- The members of an object whose names are not reserved. -/
def visibleMembers : List (Str × Json) → List (Str × Json)
  | [] => []
  | (k, v) :: ms =>
    if reservedLead.isPrefixOf k.front then visibleMembers ms else (k, visible v) :: visibleMembers ms

end

/-- The part of a value at a place. -/
def partAt : List Step → Json → Json
  | [], v => v
  | .name t :: place, v => partAt place ((v.member? t).getD .null)
  | .index n :: place, .arr vs => partAt place (vs[n]?.getD .null)
  | .index _ :: _, _ => .null

/-- The part of a value that an issue shows: the value at its place, or the object that
lacks a member. -/
def shownPart (i : Issue) (v : Json) : Json :=
  partAt (if i.kind = .missing then i.place.dropLast else i.place) v

namespace Problem

/-- The account of issues. -/
def issuesJson (issues : List Issue) : Json :=
  .obj [("detail", .arr (issues.map Issue.toJson))]

/-- The response that gives an account of a problem.  Issues show their parts of the
input, so these have to be fit for JSON. -/
def response : Problem → Response
  | rejected status detail => .json status (.obj [("detail", .str detail)])
  | invalid issues input =>
    if issues.any fun i => (visible (shownPart i input)).hasNonFinite then .ofBreakdown .notFinite
    else if issues.any fun i => (visible (shownPart i input)).hasHalf then .ofBreakdown .brokenText
    else .json 422 (issuesJson issues)
  | broken b => .ofBreakdown b

end Problem

/-- What serves a request: it may end in a problem, and what it did to the store before
stays done. -/
abbrev Handler (α : Type) := ExceptT Problem (StateM Store) α

/-- An operation on the store, whose faults break the request down. -/
def ofStore {α : Type} (a : Store.Action α) : Handler α :=
  ExceptT.adapt (fun f => .broken (.store f)) a

end Http

end BranchingStory
