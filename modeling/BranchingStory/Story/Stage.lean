import BranchingStory.Text.Basic

/-!
# Stages

How far a character's thread has come.  The stages are ordered by `Stage.rank`.
-/

namespace BranchingStory

/-- How far a character's thread has come. -/
inductive Stage where
  | unset
  | first
  | second
  | close
  deriving Repr, DecidableEq

namespace Stage

/-- All stages in their order. -/
def all : List Stage := [unset, first, second, close]

/-- The label of a stage. -/
def label : Stage → Text
  | unset => "UNSET"
  | first => "L1"
  | second => "L2"
  | close => "CLOSE"

/-- The stage of a label. -/
def ofLabel? (t : Text) : Option Stage :=
  all.find? (·.label == t)

/-- The place of a stage in the order. -/
def rank : Stage → Nat
  | unset => 0
  | first => 1
  | second => 2
  | close => 3

end Stage

end BranchingStory
