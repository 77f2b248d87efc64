import BranchingStory.Text.Basic

/-!
# Choices

A choice is an option that a player may take.  A list of offered choices names each
option once: `Choice.offer` leaves a list alone that already has the option's name.
-/

namespace BranchingStory

/-- An option that a player may take, unless it is disabled. -/
structure Choice where
  id : Text
  text : Text
  disabled : Bool
  deriving Repr, DecidableEq

namespace Choice

/-- Whether a choice of this name is among `cs`. -/
def isOffered (id : Text) (cs : List Choice) : Bool :=
  cs.any (·.id == id)

/-- Adds a choice at the end unless one of its name is there. -/
def offer (cs : List Choice) (c : Choice) : List Choice :=
  if isOffered c.id cs then cs else cs ++ [c]

/-- Adds choices one after another. -/
def offerAll (cs more : List Choice) : List Choice :=
  more.foldl offer cs

end Choice

end BranchingStory
