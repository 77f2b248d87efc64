import BranchingStory.Markup.Block
import BranchingStory.Markup.Compact
import BranchingStory.Markup.Element
import BranchingStory.Story.Choice
import BranchingStory.Story.Segment

/-!
# Utterances

What a block says: the segments that it proposes, in order, each marked when it is to
be given out only once, and the choices that it lists.  Narration, plain speech and
records may repeat; actions and lines may not.
-/

namespace BranchingStory

/-- A segment that a block proposes; with `once` it is given out only the first time. -/
structure Utterance where
  segment : Segment
  once : Bool
  deriving Repr, DecidableEq

namespace Utterance

/-- A text in trimmed form as an utterance, if anything is left of it. -/
def ofText (once : Bool) (speaker : Text) (emotion : Emotion) (raw : Text) : List Utterance :=
  let text := Text.trim raw
  if text.isEmpty then [] else [⟨⟨speaker, emotion, text⟩, once⟩]

/-- An action, shown in parentheses, if anything is left of it. -/
def ofAction (speaker : Text) (emotion : Emotion) (raw : Text) : List Utterance :=
  let text := Text.trim raw
  if text.isEmpty then [] else [⟨⟨speaker, emotion, ['('] ++ text ++ [')']⟩, true⟩]

/-- The utterances of actions and lines, where `emotion` is the one in force; an action
sets it anew. -/
def ofElements (speaker : Text) (emotion : Emotion) : List Element → List Utterance
  | [] => []
  | e :: es =>
    if Text.lower e.spelling = "action" then
      let emotion :=
        Emotion.ofExpression? ((e.attribute? "expression").or (e.attribute? "emotion"))
      ofAction speaker emotion e.inner ++ ofElements speaker emotion es
    else
      ofText true speaker emotion e.inner ++ ofElements speaker emotion es

/-- The utterances of a scene in compact form. -/
def ofCompact (speaker : Text) (scene : Compact) : List Utterance :=
  let emotion := Emotion.ofExpression scene.expression
  ofAction speaker emotion scene.action ++ ofText true speaker emotion scene.speech

/-- The utterances of a character block that is not in compact form. -/
def ofScene (speaker : Text) (opening inner : Text) : List Utterance :=
  let emotion :=
    Emotion.ofExpression?
      ((Attribute.get? opening "emotion").or (Attribute.get? opening "expression"))
  match Text.collect Element.spoken? inner with
  | [] => ofText false speaker emotion inner
  | es => ofElements speaker emotion es

end Utterance

namespace Block

/-- The speaker that the opening tag of a character block names, in capitals. -/
def speaker (b : Block) : Text :=
  Text.upper (Text.trim ((Attribute.get? b.opening "name").getD []))

/-- The trimmed text of the first field of a name. -/
def field? (fields : List Element) (name : Text) : Option Text :=
  (fields.find? (Text.lower ·.spelling == name)).map fun e => Text.trim e.inner

/-- The utterance of a segment block, whose speaker is the narrator when none is named. -/
def record (fields : List Element) : List Utterance :=
  let speaker := Text.upper ((field? fields "speaker").getD [])
  Utterance.ofText false (if speaker.isEmpty then Segment.narrator else speaker)
    (Emotion.ofExpression? (field? fields "emotion")) ((field? fields "text").getD [])

/-- The segments that a block proposes. -/
def utterances (b : Block) : List Utterance :=
  match b.kind with
  | .narrator => Utterance.ofText false Segment.narrator .neutral b.inner
  | .character =>
    if b.speaker.isEmpty then []
    else
      match Compact.read? (Text.trim b.text) with
      | some scene => Utterance.ofCompact b.speaker scene
      | none => Utterance.ofScene b.speaker b.opening b.inner
  | .segment => record (Text.collect Element.field? b.inner)
  | .choices => []

/-- The choice of an element, when it has a name. -/
def choiceOf? (e : Element) : Option Choice :=
  let id := Text.trim ((e.attribute? "id").getD [])
  if id.isEmpty then none
  else
    some ⟨id, Text.trim e.inner,
      Text.lower (Text.trim ((e.attribute? "disabled").getD [])) == ("true" : Text)⟩

/-- The choices that a block lists. -/
def choices (b : Block) : List Choice :=
  match b.kind with
  | .choices => (Text.collect Element.choice? b.inner).filterMap choiceOf?
  | _ => []

end Block

end BranchingStory
