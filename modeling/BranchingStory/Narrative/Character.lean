import BranchingStory.Text.Basic

/-!
# Characters

The four characters of the story, in the order in which the hub lists their threads.
-/

namespace BranchingStory

/-- A character with a thread of their own. -/
inductive Character where
  | lumine
  | zhongli
  | tartaglia
  | venti
  deriving Repr, DecidableEq

namespace Character

/-- All characters in hub order. -/
def all : List Character := [lumine, zhongli, tartaglia, venti]

/-- The name of a character inside choice ids and state. -/
def id : Character → Text
  | lumine => "lumine"
  | zhongli => "zhongli"
  | tartaglia => "tartaglia"
  | venti => "venti"

/-- The character of a name. -/
def ofId? (t : Text) : Option Character :=
  all.find? (·.id == t)

/-- What the hub calls a character's thread. -/
def hubLabel : Character → Text
  | lumine => "Talk to Lumine about journeying between worlds"
  | zhongli => "Ask Zhongli about the contracts and destiny"
  | tartaglia => "Discuss the harbor's restlessness with Tartaglia"
  | venti => "Listen to Venti's stories about ancient seals"

end Character

end BranchingStory
