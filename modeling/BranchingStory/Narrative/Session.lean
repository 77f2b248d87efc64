import BranchingStory.Markup.Parser
import BranchingStory.Narrative.Route

/-!
# Sessions

A session plays a story step by step: it holds a parser for the current step and the
state of the threads.  Each step begins with a fresh parser; the epilogue is parsed
without default choices.  A snapshot keeps the state of the threads only, which is all
that a later choice depends on.
-/

namespace BranchingStory

/-- What a step of the story shows. -/
structure Turn where
  segments : List Segment
  choices : List Choice
  complete : Bool
  deriving Repr, DecidableEq

/-- A playthrough: the parser of the current step, the state of the threads, the tail
limit, the size of the pieces in which fragments are parsed, and whether the epilogue
has been played. -/
structure Session where
  parser : Parser
  completed : List Text
  progress : Progress
  limit : TailLimit
  chunkSize : Option Int
  finished : Bool

/-- The state of the threads of a session. -/
structure Snapshot (κ : Type := Text) where
  completed : List κ
  progress : Progress κ
  deriving Repr, DecidableEq

namespace Session

/-- A session that goes on from a state of the threads. -/
def new (completed : List Text) (progress : Progress) (limit : TailLimit)
    (chunkSize : Option Int) : Session where
  parser := .new limit Parser.defaultChoices
  completed := completed
  progress := progress
  limit := limit
  chunkSize := chunkSize
  finished := false

/-- The pieces in which a text is parsed: of the size given, when that is positive, or the
whole text. -/
def cut (chunkSize : Option Int) (t : Text) : List Text :=
  match chunkSize with
  | some n => Text.cut n t
  | none => [t]

/-- Feeds text into the current step. -/
def feed (s : Session) (t : Text) : Except Parser.Fault (List Segment) × Session :=
  let (result, parser) := s.parser.feedAll (cut s.chunkSize t)
  (result, { s with parser := parser })

/-- Begins a step with the text of a fragment. -/
def begin (s : Session) (fragment : Text) (final : Bool) : Except Parser.Fault Turn × Session :=
  let limit := if final then .off else s.limit
  let s := { s with parser := .new limit s.parser.defaults, finished := final }
  match s.feed fragment with
  | (.error e, s) => (.error e, s)
  | (.ok segments, s) => (.ok ⟨segments, s.parser.choices, s.parser.complete⟩, s)

/-- The session with the state of the threads of a route. -/
def adopt (s : Session) (r : Route) : Session :=
  { s with completed := r.completed, progress := .ofStages r.progress }

/-- Takes a choice: routes it, adopts the new state of the threads and begins the next
step. -/
def choose (s : Session) (id : Text) : Except Parser.Fault Turn × Session :=
  let route := Route.resolve id s.completed s.progress
  (s.adopt route).begin route.fragment route.final

/-- The state of the threads. -/
def snapshot (s : Session) : Snapshot :=
  ⟨s.completed, s.progress⟩

/-- A session that goes on from a snapshot. -/
def restore (k : Snapshot) (limit : TailLimit) (chunkSize : Option Int) : Session :=
  new k.completed k.progress limit chunkSize

end Session

end BranchingStory
