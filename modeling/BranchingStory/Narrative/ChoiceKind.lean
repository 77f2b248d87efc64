import BranchingStory.Narrative.Fragment
import BranchingStory.Text.Str

/-!
# Kinds of choices

What a choice id asks for.  Every id is of exactly one kind: the ids of the hub are
exact, the answers inside a thread are known by what they begin with, and all other
ids are unrecognized.
-/

namespace BranchingStory

/-- What a choice id asks for. -/
inductive ChoiceKind where
  /-- To begin or take up a character's thread. -/
  | talk (c : Character)
  /-- An answer to the opening of a thread. -/
  | stageOne (c : Character)
  /-- An answer to the reply of a thread. -/
  | stageTwo (c : Character)
  /-- To go back to the hub after the closing of a thread. -/
  | returnToHub (c : Character)
  /-- To go back to the hub in the middle of a thread. -/
  | chooseOther
  /-- To end the story. -/
  | endStory
  | unrecognized
  deriving Repr, DecidableEq

/-- The id of the choice that begins a character's thread. -/
def Character.talkId (c : Character) : Text := ("talk_" : Text) ++ c.id

/-- The id of the hub entry of a thread that is completed. -/
def Character.completedId (c : Character) : Text := ("completed_" : Text) ++ c.id

namespace ChoiceKind

/-- The word for a kind. -/
def word : ChoiceKind → Text
  | talk _ => "talk"
  | stageOne _ => "stage_one"
  | stageTwo _ => "stage_two"
  | returnToHub _ => "return_to_hub"
  | chooseOther => "choose_other"
  | endStory => "end_story"
  | unrecognized => "unrecognized"

/-- The character whose thread a kind concerns. -/
def character? : ChoiceKind → Option Character
  | talk c => some c
  | stageOne c => some c
  | stageTwo c => some c
  | returnToHub c => some c
  | _ => none

/-- The ids that are known exactly. -/
def exact : List (Text × ChoiceKind) :=
  [(chooseOtherId, chooseOther), (endStoryId, endStory)]
    ++ Character.all.flatMap fun c =>
      [(c.talkId, talk c), (returnLead ++ c.id, returnToHub c)]

/-- What the ids of answers begin with. -/
def leads : List (Text × ChoiceKind) :=
  Character.all.flatMap fun c =>
    [(c.id ++ "_l1_", stageOne c), (c.id ++ "_l2_", stageTwo c)]

/-- The kind of an id that is not known exactly, by the text it begins with. -/
def ofLead (lead : Text) : ChoiceKind :=
  match leads.find? (·.1.isPrefixOf lead) with
  | some l => l.2
  | none => unrecognized

/-- The kind of a choice id. -/
def ofId (id : Text) : ChoiceKind :=
  match exact.lookup id with
  | some k => k
  | none => ofLead id

/-- The kind of a choice id that may be no text; one that is none is not known exactly. -/
def ofStr : Str → ChoiceKind
  | .text t => ofId t
  | .half lead _ _ => ofLead lead

end ChoiceKind

end BranchingStory
