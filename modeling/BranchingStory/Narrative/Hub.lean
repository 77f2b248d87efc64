import BranchingStory.Narrative.ChoiceKind
import BranchingStory.Story.Segment

/-!
# The hub

The hub asks whom the player sits with.  It lists every thread in its place; one that
is completed stays there, marked and disabled.  Threads are named by texts, or by strings
that may be no texts.
-/

namespace BranchingStory

/-- What threads are named by. -/
class ThreadName (κ : Type) where
  /-- The name that a text is. -/
  ofText : Text → κ
  /-- Different texts are different names. -/
  ofText_inj : ∀ {t u : Text}, ofText t = ofText u → t = u

instance : ThreadName Text where
  ofText t := t
  ofText_inj h := h

instance : ThreadName Str where
  ofText t := .text t
  ofText_inj h := Str.text.inj h

/-- The name of a character's thread. -/
def Character.thread {κ : Type} [ThreadName κ] (c : Character) : κ :=
  ThreadName.ofText c.id

@[simp]
theorem Character.thread_text (c : Character) :
  c.thread = c.id
  := rfl

@[simp]
theorem Character.thread_str (c : Character) :
  c.thread = Str.text c.id
  := rfl

namespace Hub

/-- What stands behind the label of a completed thread. -/
def completedMark : Text := " ✅ (Completed)"

variable {κ : Type} [ThreadName κ] [BEq κ]

/-- The entry of a thread. -/
def entry (completed : List κ) (c : Character) : Choice :=
  if completed.contains c.thread then ⟨c.completedId, c.hubLabel ++ completedMark, true⟩
  else ⟨c.talkId, c.hubLabel, false⟩

/-- The entries of all threads. -/
def entries (completed : List κ) : List Choice :=
  Character.all.map (entry completed)

/-- The choice that ends the story. -/
def ending : Choice := ⟨endStoryId, "End the conversation", false⟩

/-- The passages of the hub. -/
def passages (completed : List κ) : List Passage :=
  [.sceneOnLines Segment.narrator [.say "Who do you sit with?"],
   .choicesOnLines (entries completed ++ [ending])]

/-- The markup of the hub. -/
def text (completed : List κ) : Text :=
  Passage.printAll "\n\n" (passages completed)

end Hub

end BranchingStory
