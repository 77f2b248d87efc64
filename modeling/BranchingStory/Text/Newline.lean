import BranchingStory.Text.Basic

/-!
# Newlines

A text file may end its lines with a line feed, a carriage return, or both in this
order; `Text.unifyNewlines` writes each of these as a line feed.
-/

namespace BranchingStory

namespace Text

/-- The text with every line ended by a line feed. -/
def unifyNewlines : Text → Text
  | [] => []
  | '\r' :: '\n' :: t => '\n' :: unifyNewlines t
  | '\r' :: t => '\n' :: unifyNewlines t
  | c :: t => c :: unifyNewlines t

end Text

end BranchingStory
