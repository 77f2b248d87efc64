import BranchingStory.Client.Local
import BranchingStory.Proofs.Client.Body
import BranchingStory.Proofs.Http.Story
import BranchingStory.Proofs.Narrative.Rising

/-!
# One exchange

A client that stands at a state of the threads asks for the fragment of a choice: the service
reads the state back from the body, the client takes the new one from the headers, and its parser
is fed the fragment.
-/

namespace BranchingStory

/-- The URL at which a client that knows `base` asks for the story: the service is reached there,
and serves the story. -/
structure Url.Serves (base u : Url) : Prop where
  below : base.below Client.storyPath = .ok u
  path : (Address.ofText u.target).path = Client.storyPath
  hostAscii : (u.host.any fun c => 0x80 ≤ c.toNat) = false
  hostReadable : u.readHost.isOk = true
  kind : Url.namesKind (Client.shownUrl u) = true

namespace Client

variable {c : Client} {u : Url} {k : Snapshot}

/-! ### The request -/

/-- A client at a state of the threads, where each of them stands once. -/
structure Stands (c : Client) (k : Snapshot) : Prop where
  completed : c.completed = .ofTexts k.completed
  progress : c.progress = k.progress.toJson
  nodup : (k.progress.map (·.1)).Nodup

/-- The body with which a choice is asked for at a state of the threads. -/
def bodyOf (k : Snapshot) (choice : Text) : Http.StoryBody :=
  .ofTexts choice k.completed k.progress

/-- The body that a client sends is that of its state. -/
theorem Stands.choiceBody (h : c.Stands k) (choice : Text) :
  c.choiceBody choice = (bodyOf k choice).form
  := by
  rw [Client.choiceBody, h.completed, h.progress, bodyOf, Http.StoryBody.form_ofTexts]

/-- The request of a choice. -/
theorem Stands.request (h : c.Stands k) (hu : c.base.Serves u) (choice : Text) :
  c.request (.choice choice)
    = .ok ⟨"POST", u, some (Json.write .compact (bodyOf k choice).form)⟩
  := by
  have hflat : Json.Flat 2 (bodyOf k choice).form := Http.StoryBody.form_flat _ _ _
  have hfinite : (bodyOf k choice).form.hasNonFinite = false :=
    Json.hasNonFinite_of_numberFree _ hflat.numberFree
  rw [Client.request, choiceRequest, h.choiceBody, storyRequest, hu.below]
  simp only [Except.mapError, bind, Except.bind, Option.any_some, hfinite, hflat.hasHalf,
    hu.hostAscii]
  rfl

/-! ### The headers -/

end Client

end BranchingStory
