import BranchingStory.Proofs.Narrative.Rising

/-!
# Routes and renamings

A route compares the names of threads that it is given with each other and with those of the
characters, and does nothing else with them.  So routes commute with every renaming that keeps
names apart and leaves those of the characters; one of these takes texts as strings.
-/

namespace BranchingStory

variable {κ ι α : Type}

namespace Entries

variable [DecidableEq κ] [DecidableEq ι] {f : κ → ι}

end Entries

namespace Route

section

variable [BEq κ] [LawfulBEq κ] [BEq ι] [LawfulBEq ι] {f : κ → ι}

end

/-! ### Whole routes -/

section

variable [DecidableEq κ] [DecidableEq ι] [ThreadName κ] [ThreadName ι] {f : κ → ι}

end

end Route

/-! ### Texts as strings -/

namespace Progress

/-- What is told of the threads in texts, told in strings. -/
def strs (p : Progress) : List (Str × Str) :=
  p.map fun e => (.text e.1, .text e.2)

end Progress

namespace Route

section

variable [ThreadName κ] {P : κ → Prop}

end

end Route

/-! ### Names that are texts -/

namespace Route

end Route

end BranchingStory
