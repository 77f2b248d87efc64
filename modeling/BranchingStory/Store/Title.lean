import BranchingStory.Text.Blank
import BranchingStory.Text.Case
import BranchingStory.Text.Word

/-!
# Titles

The title of a conversation that was not given one: the first three words of its prompt
that have more than two characters, each with a capital.
-/

namespace BranchingStory

namespace Title

/-- The title of a prompt without any longer word. -/
def absent : Text := "New Story"

/-- The words of a prompt in small letters, where other characters part words as blanks
do. -/
def wordsOf (prompt : Text) : List Text :=
  Text.words ((Text.lower prompt).map fun c => if isWord c || isBlank c then c else ' ')

/-- The title of a prompt. -/
def ofPrompt (prompt : Text) : Text :=
  match ((wordsOf prompt).filter (2 < ·.length)).take 3 with
  | [] => absent
  | ws => List.intercalate [' '] (ws.map Text.capitalizeFirst)

end Title

end BranchingStory
