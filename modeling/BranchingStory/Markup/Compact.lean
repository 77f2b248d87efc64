import BranchingStory.Markup.Scan
import BranchingStory.Markup.TagName

/-!
# Compact scenes

Older content writes a character block on one line: a name, one action with an
expression, and one line of speech, in double quotes and in this order.
`Compact.read?` reads a whole block in this form.
-/

namespace BranchingStory

/-- What a character block in compact form says. -/
structure Compact where
  name : Text
  expression : Text
  action : Text
  speech : Text
  deriving Repr, DecidableEq

namespace Compact

/-- The rest behind a tag name. -/
def name? (name t : Text) : Option Text :=
  (TagName.take? name t).map (·.2)

/-- The rest behind at least one blank. -/
def blanks? (t : Text) : Option Text :=
  match t with
  | c :: rest => if isBlank c then some (rest.dropWhile isBlank) else none
  | [] => none

/-- A value in double quotes that is not empty, and the rest behind the closing quote. -/
def value? (t : Text) : Option (Text × Text) := do
  let rest ← Text.after? ['"'] t
  let p ← Text.cutAt? '"' rest
  if p.1.isEmpty then none else some p

/-- The rest behind spaces and tabs. -/
def skipSpaces (t : Text) : Text :=
  t.dropWhile fun c => c == ' ' || c == '\t'

/-- Whether a character may stand in the text of a compact scene. -/
def isPlain (c : Char) : Bool :=
  c != '<' && c != '\n'

/-- The value of a single attribute and the rest behind the end of its tag. -/
def attributeToEnd? (name t : Text) : Option (Text × Text) := do
  let t ← blanks? t
  let t ← name? name t
  let t ← Text.after? ['='] t
  let (value, t) ← value? t
  let (_, t) ← TagName.tagEnd? t
  return (value, t)

/-- Reads the text of a block as a compact scene. -/
def read? (t : Text) : Option Compact := do
  let t ← Text.after? ['<'] t
  let t ← name? "character" t
  let (name, t) ← attributeToEnd? "name" t
  let t ← Text.after? ['<'] (skipSpaces t)
  let t ← name? "action" t
  let (expression, t) ← attributeToEnd? "expression" t
  let action := t.takeWhile isPlain
  let t ← Text.after? "</" (t.dropWhile isPlain)
  let t ← name? "action" t
  let t ← Text.after? ['>'] t
  let t ← Text.after? ['<'] (skipSpaces t)
  let t ← name? "say" t
  let t ← Text.after? ['>'] t
  let speech := t.takeWhile isPlain
  guard (!speech.isEmpty)
  let t ← Text.after? "</" (t.dropWhile isPlain)
  let t ← name? "say" t
  let t ← Text.after? ['>'] t
  let (_, t) ← TagName.closing? "character" (t.dropWhile isPlain)
  guard t.isEmpty
  return ⟨name, expression, action, speech⟩

end Compact

end BranchingStory
