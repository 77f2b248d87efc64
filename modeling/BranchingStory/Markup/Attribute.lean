import BranchingStory.Markup.Scan
import BranchingStory.Text.Word
import BranchingStory.Text.Case
import BranchingStory.Text.Quoted

/-!
# Attributes

An attribute is a name of word characters and hyphens, an equals sign and a value in
quotes of either kind, with blanks allowed around the sign.  The value goes up to the
next quote of the same kind.  Names count in small letters, and the last value given
for a name is the one that holds.
-/

namespace BranchingStory

namespace Attribute

/-- Whether a character may stand in the name of an attribute. -/
def isNameChar (c : Char) : Bool :=
  isWord c || c == '-'

/-- The quoted value at the front of a text, and the rest. -/
def value? : Text → Option (Text × Text)
  | [] => none
  | q :: t => if q = '"' ∨ q = Text.apostrophe then Text.cutAt? q t else none

/-- The attribute at the front of a text, and the rest. -/
def at? (t : Text) : Option ((Text × Text) × Text) :=
  let name := t.takeWhile isNameChar
  if name.isEmpty then none
  else
    match (t.dropWhile isNameChar).dropWhile isBlank with
    | '=' :: u => (value? (u.dropWhile isBlank)).map fun p => ((name, p.1), p.2)
    | _ => none

/-- The attributes of a tag, names and values as they are written. -/
def all (tag : Text) : List (Text × Text) :=
  Text.collect at? tag

/-- The value that holds for a name in small letters. -/
def get? (tag key : Text) : Option Text :=
  ((all tag).reverse.find? (Text.lower ·.1 == key)).map (·.2)

end Attribute

end BranchingStory
