import BranchingStory.Text.Basic

/-!
# Splitting texts

Texts cut at a separating character: at the first one, or at every one.
-/

namespace BranchingStory

namespace Text

/-- The text before and the text behind the first `c`, which is empty when there is
none. -/
def cutFirst (c : Char) (t : Text) : Text × Text :=
  (t.takeWhile (· ≠ c), (t.dropWhile (· ≠ c)).drop 1)

/-- The parts of a text between separators. -/
def split (separator : Char) : Text → List Text
  | [] => [[]]
  | c :: t =>
    match split separator t with
    | [] => [[c]]
    | p :: ps => if c = separator then [] :: p :: ps else (c :: p) :: ps

end Text

end BranchingStory
