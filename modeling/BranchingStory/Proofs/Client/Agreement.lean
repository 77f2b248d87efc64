import BranchingStory.Proofs.Client.Exchange

/-!
# The client agrees with a session

A client keeps the state of the threads as it stands in headers, has its fragments sent in pieces
and cut anew on their way, and parses them without default choices.  A session keeps the state
itself and parses whole fragments.  They show the same, choice by choice.
-/

namespace BranchingStory

open Operation

/-- Takes choices one after another and goes on behind a fault: what each of them gives, and the
session behind it. -/
def Session.chooseEach : Session → List Text → List (Except Parser.Fault Turn × Session)
  | _, [] => []
  | s, id :: ids => s.choose id :: chooseEach (s.choose id).2 ids

namespace Client

/-- A choice that says something, the room in which the service reads it, and how the body of its
response is cut on its way. -/
structure Ask where
  choice : Text
  room : Json.Room
  cut : Bytes → List Bytes
  notBlank : Text.isBlankOnly choice = false
  flatten_cut : ∀ bs, (cut bs).flatten = bs

/-- What a client shows behind a choice is what a session shows, and the parser of the client has
its tail limit again. -/
structure Agrees (limit : TailLimit) (got : Arrival × Client)
    (outcome : Except Parser.Fault Turn × Session) : Prop where
  fault : got.1.fault = none
  turn : outcome.1 = .ok ⟨got.1.segments, got.1.parser.choices, got.1.parser.complete⟩
  completed : got.2.completed = .ofTexts outcome.2.completed
  progress : got.2.progress = outcome.2.progress.toJson
  final : got.2.final = outcome.2.finished
  limit : got.1.parser.limit = limit

variable {c : Client} {q : Session} {u : Url} {s s' : Store} {v : Settings} {size : Int}

/-! ### One choice -/

/-- A client takes in the reply to its request. -/
theorem run_take {σ : Type} {send : Request → StateM σ Reply} {s s' : σ} {step : Step}
    {r : Request} {reply : Reply} (hr : c.request step = .ok r)
    (hs : (send r).run s = (reply, s')) (p : Parser) :
  (c.take send p step).run s = (c.receive p.reset (step == .opening) r.url reply, s')
  := by
  rw [take, hr]
  dsimp only
  rw [StateT.run_bind, hs]
  rfl

/-- A URL of a server. -/
def testBase : Url := ⟨"http", [], "test", none, [], none, none⟩

/-- A choice whose response comes byte by byte. -/
def bytewise (choice : Text) (h : Text.isBlankOnly choice = false) : Ask where
  choice := choice
  room := .least
  cut := fun bs => bs.map fun b => [b]
  notBlank := h
  flatten_cut := by
    intro bs
    rw [← List.flatMap_def]
    apply List.flatMap_singleton'

end Client

end BranchingStory
