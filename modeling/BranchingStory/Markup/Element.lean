import BranchingStory.Markup.Attribute
import BranchingStory.Markup.TagName

/-!
# Elements

The elements inside a block: actions and lines inside a character block, fields inside
a segment block, and choices inside a choices block.  An element goes up to the first
closing tag of its name; an action, a line or a field is closed only by a tag that
repeats its own spelling of the name.
-/

namespace BranchingStory

/-- An element inside a block: the spelling of its name, the text of its attributes and
what stands inside. -/
structure Element where
  spelling : Text
  attributes : Text
  inner : Text
  deriving Repr, DecidableEq

namespace Element

/-- The value of an attribute of the element. -/
def attribute? (e : Element) (key : Text) : Option Text :=
  Attribute.get? e.attributes key

/-- The names of the elements of a character block. -/
def spokenNames : List Text := ["action", "say", "dialogue"]

/-- The names of the fields of a segment block. -/
def fieldNames : List Text := ["speaker", "emotion", "text"]

/-- The element of a given name at the front of the text behind an opening angle bracket,
closed by a tag that repeats its spelling. -/
def spokenNamed? (t name : Text) : Option (Element × Text) := do
  let (spelling, rest) ← TagName.take? name t
  guard (endsWord rest)
  let (attributes, body) ← Text.cutAt? '>' rest
  let (inner, rest) ← Text.until? (TagName.closingSame? spelling) body
  return (⟨spelling, attributes, inner⟩, rest)

/-- The action or line at the front of a text. -/
def spoken? : Text → Option (Element × Text)
  | '<' :: t => spokenNames.findSome? (spokenNamed? t)
  | _ => none

/-- The field of a given name at the front of the text behind an opening angle bracket. -/
def fieldNamed? (t name : Text) : Option (Element × Text) := do
  let (spelling, rest) ← TagName.take? name t
  let (_, body) ← TagName.tagEnd? rest
  let (inner, rest) ← Text.until? (TagName.closingSame? spelling) body
  return (⟨spelling, [], inner⟩, rest)

/-- The field at the front of a text. -/
def field? : Text → Option (Element × Text)
  | '<' :: t => fieldNames.findSome? (fieldNamed? t)
  | _ => none

/-- The choice at the front of a text. -/
def choice? : Text → Option (Element × Text)
  | '<' :: t => do
    let (spelling, rest) ← TagName.take? "choice" t
    guard (endsWord rest)
    let (attributes, body) ← Text.cutAt? '>' rest
    let (inner, rest) ←
      Text.until? (fun u => (TagName.closing? "choice" u).map (·.2)) body
    return (⟨spelling, attributes, inner⟩, rest)
  | _ => none

end Element

end BranchingStory
