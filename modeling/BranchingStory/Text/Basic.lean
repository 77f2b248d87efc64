/-!
# Text

A text is the list of its characters, so positions, lengths and pieces all count
characters.  `CodeSet` is a set of characters given by the codes at which
membership changes.
-/

namespace BranchingStory

/-- A text, character by character. -/
abbrev Text := List Char

instance : Coe String Text where
  coe := String.toList

/-- A set of characters, written as the rising list of the codes at which membership
changes: the first code is in, the second is out again, and so on. -/
structure CodeSet where
  flips : List Nat

namespace CodeSet

/-- A character is a member when an odd number of flips lie at or below its code. -/
def contains (s : CodeSet) (c : Char) : Bool :=
  (s.flips.takeWhile (· ≤ c.toNat)).length % 2 == 1

end CodeSet

namespace Text

/-- The pieces of a text, each of `size` characters except that the last may be
shorter; a size of zero counts as one. -/
def pieces (size : Nat) : Text → List Text
  | [] => []
  | c :: t => (c :: t.take (size - 1)) :: pieces size (t.drop (size - 1))
termination_by t => t.length
decreasing_by
  simp only [List.length_cons, List.length_drop]
  omega

/-- The pieces of a text, the first of them numbered `k`, where the sizes are those of
`sizes` taken round and round. -/
def piecesRound (sizes : List Nat) (k : Nat) : Text → List Text
  | [] => []
  | c :: t =>
    let more := (sizes[k % sizes.length]?).getD 1 - 1
    (c :: t.take more) :: piecesRound sizes (k + 1) (t.drop more)
termination_by t => t.length
decreasing_by
  simp only [List.length_cons, List.length_drop]
  omega

/-- The pieces of a text when `size` is positive, and otherwise the whole text as one
piece. -/
def cut (size : Int) (t : Text) : List Text :=
  match size with
  | .ofNat (n + 1) => pieces (n + 1) t
  | _ => [t]

/-- Lines joined by line feeds. -/
def unlines (lines : List Text) : Text :=
  List.intercalate ['\n'] lines

/-- What is left of `t` after `lead`, when `t` starts with it. -/
def after? : (lead t : Text) → Option Text
  | [], t => some t
  | _ :: _, [] => none
  | a :: lead, c :: t => if a = c then after? lead t else none

/-- Whether `part` occurs somewhere in `t`. -/
def hasPart (part : Text) : Text → Bool
  | [] => part.isEmpty
  | c :: t => part.isPrefixOf (c :: t) || hasPart part t

end Text

end BranchingStory
