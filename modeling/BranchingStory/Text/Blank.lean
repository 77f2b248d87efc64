import BranchingStory.Text.Basic

/-!
# Blanks

The white space of Unicode 14 together with the four information separators
U+001C to U+001F, and what is cut at blanks: `Text.trim` removes them from both
ends and `Text.words` gives the runs between them.
-/

namespace BranchingStory

/-- The codes of white space and of the information separators. -/
def blankSet : CodeSet where
  flips :=
    [9, 14, 28, 33, 133, 134, 160, 161, 5760, 5761, 8192, 8203, 8232, 8234, 8239, 8240, 8287,
     8288, 12288, 12289]

/-- Whether a character is a blank. -/
def isBlank (c : Char) : Bool :=
  blankSet.contains c

namespace Text

/-- `t` without its leading blanks. -/
def trimStart (t : Text) : Text :=
  t.dropWhile isBlank

/-- `t` without its trailing blanks. -/
def trimEnd (t : Text) : Text :=
  (t.reverse.dropWhile isBlank).reverse

/-- `t` without the blanks at its two ends. -/
def trim (t : Text) : Text :=
  trimEnd (trimStart t)

/-- Whether `t` consists of blanks only. -/
def isBlankOnly (t : Text) : Bool :=
  t.all isBlank

/-- The stretches of `t` between single blanks, empty ones included. -/
def cutAtBlanks : Text → List Text
  | [] => [[]]
  | c :: t =>
    if isBlank c then
      [] :: cutAtBlanks t
    else
      match cutAtBlanks t with
      | [] => [[c]]
      | w :: ws => (c :: w) :: ws

/-- The maximal runs of characters other than blanks. -/
def words (t : Text) : List Text :=
  (cutAtBlanks t).filter (!·.isEmpty)

/-- The words of `t` joined by single spaces. -/
def squeeze (t : Text) : Text :=
  List.intercalate [' '] (words t)

end Text

end BranchingStory
