import BranchingStory.Record.Routing

/-!
# Sessions from JSON values

Sessions for which the state of the threads and the size of the pieces come as JSON values.
The state stays as it was told until a choice settles it, and a choice that has no route
leaves the session as it is.  Names may be strings that are no texts, so the state is kept
beside the session.  A size that no text can be cut by shows when a text is fed.
-/

namespace BranchingStory

/-- The size of the pieces that a value means, where `none` stands for whole texts; nothing
when no text can be cut by it.  Everything empty means whole texts, and so does a binary64
number that is not positive. -/
def Session.chunkSize? : Json → Option (Option Int)
  | .null => some none
  | .bool b => some (some b.toNat)
  | .int n => some (some n)
  | .float x => if x.isAtMost 0 then some none else none
  | .str (.text []) => some none
  | .arr [] => some none
  | .obj [] => some none
  | _ => none

/-- The state of the threads as values tell it. -/
structure Told where
  completed : List Json
  progress : List (Str × Json)

/-- The state of the threads that a route carries on. -/
def Told.ofRoute (r : Route Str) : Told where
  completed := r.completed.map .str
  progress := r.progress.map fun e => (e.1, .str e.2.label)

/-- A session, the state of the threads as it was told or settled last, and whether texts can
be cut into pieces. -/
structure LooseSession where
  session : Session
  state : Told
  cuts : Bool

namespace LooseSession

/-- Why a step fails. -/
inductive Fault where
  | route (f : Route.Fault)
  | parser (f : Parser.Fault)
  /-- No text can be cut by the size of the pieces. -/
  | chunkSize
  deriving Repr, DecidableEq

/-- A session that goes on from a state of the threads. -/
def new (told : Told) (limit : TailLimit) (chunkSize : Json) : LooseSession where
  session := .new [] [] limit ((Session.chunkSize? chunkSize).getD none)
  state := told
  cuts := (Session.chunkSize? chunkSize).isSome

/-- Feeds text into the current step. -/
def feed (s : LooseSession) (t : Text) : Except Fault (List Segment) × LooseSession :=
  if s.cuts then
    let (result, session) := s.session.feed t
    (result.mapError .parser, { s with session := session })
  else (.error .chunkSize, s)

/-- Begins a step with the text of a fragment. -/
def begin (s : LooseSession) (fragment : Text) (final : Bool) :
    Except Fault Turn × LooseSession :=
  if s.cuts then
    let (result, session) := s.session.begin fragment final
    (result.mapError .parser, { s with session := session })
  else (.error .chunkSize, { s with session := (s.session.begin [] final).2 })

/-- Takes a choice: routes it, adopts the new state of the threads and begins the next
step. -/
def choose (s : LooseSession) (id : Str) : Except Fault Turn × LooseSession :=
  match Route.ofJson id s.state.completed s.state.progress with
  | .error f => (.error (.route f), s)
  | .ok route =>
    { s with state := .ofRoute route }.begin route.fragment route.final

/-- A session that goes on from the state of the threads of another one. -/
def restore (s : LooseSession) (limit : TailLimit) (chunkSize : Json) : LooseSession :=
  new s.state limit chunkSize

end LooseSession

end BranchingStory
