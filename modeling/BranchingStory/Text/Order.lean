import BranchingStory.Text.Basic

/-!
# The order of texts

Texts are ordered like words in a dictionary, their characters by code.
-/

namespace BranchingStory

namespace Text

/-- Whether `s` stands before `t` or is equal to it. -/
def isAtMost : (s t : Text) → Bool
  | [], _ => true
  | _ :: _, [] => false
  | a :: s, b :: t => a.toNat < b.toNat || (a == b && isAtMost s t)

end Text

end BranchingStory
