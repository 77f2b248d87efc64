import BranchingStory.Story.Choice

/-!
# Printing markup

Passages are what authors write; `Passage.print` gives their markup.  A passage with
parts inside carries the text that stands before the first part and behind each part,
so that the same passage can be printed on one line or with a line for every part.
-/

namespace BranchingStory

/-- A part of a scene. -/
inductive Beat where
  /-- Something the speaker does, with an expression. -/
  | action (expression text : Text)
  /-- Something the speaker says. -/
  | say (text : Text)
  deriving Repr, DecidableEq

/-- A block as an author writes it.  `lead` stands before the first part of a scene or of
a list of choices, and every part has the text that stands behind it. -/
inductive Passage where
  | narration (text : Text)
  | speech (name emotion text : Text)
  | scene (name lead : Text) (beats : List (Beat × Text))
  | record (speaker emotion text : Text)
  | choices (lead : Text) (options : List (Choice × Text))
  deriving Repr, DecidableEq

/-- An attribute with a space in front. -/
def attributeText (name value : Text) : Text :=
  [' '] ++ name ++ ['=', '"'] ++ value ++ ['"']

/-- An element of a name, with its attributes and what stands inside. -/
def elementText (name attributes inner : Text) : Text :=
  ['<'] ++ name ++ attributes ++ ['>'] ++ inner ++ ['<', '/'] ++ name ++ ['>']

/-- The markup of a beat. -/
def Beat.print : Beat → Text
  | action expression text => elementText "action" (attributeText "expression" expression) text
  | say text => elementText "say" [] text

/-- The markup of an option. -/
def Choice.print (c : Choice) : Text :=
  elementText "choice"
    (attributeText "id" c.id ++ (if c.disabled then attributeText "disabled" "true" else []))
    c.text

namespace Passage

/-- The markup of a passage. -/
def print : Passage → Text
  | narration text => elementText "Narrator" [] text
  | speech name emotion text =>
    elementText "character" (attributeText "name" name ++ attributeText "emotion" emotion) text
  | scene name lead beats =>
    elementText "character" (attributeText "name" name)
      (lead ++ beats.flatMap fun b => b.1.print ++ b.2)
  | record speaker emotion text =>
    elementText "segment" []
      (elementText "speaker" [] speaker ++ elementText "emotion" [] emotion
        ++ elementText "text" [] text)
  | choices lead options =>
    elementText "choices" [] (lead ++ options.flatMap fun o => o.1.print ++ o.2)

/-- Parts with the text behind them when every part has a line of its own, indented by
two spaces, and the closing tag has one too. -/
def onLines {α : Type} : List α → List (α × Text)
  | [] => []
  | [a] => [(a, ['\n'])]
  | a :: as => (a, "\n  ") :: onLines as

/-- A scene with a line for every beat. -/
def sceneOnLines (name : Text) (beats : List Beat) : Passage :=
  scene name "\n  " (onLines beats)

/-- Choices with a line for every option. -/
def choicesOnLines (options : List Choice) : Passage :=
  choices "\n  " (onLines options)

/-- A scene on one line with one action and what is said. -/
def sceneOnOneLine (name expression action speech : Text) : Passage :=
  scene name [] [(.action expression action, []), (.say speech, [])]

/-- The markup of passages with `gap` between them. -/
def printAll (gap : Text) (ps : List Passage) : Text :=
  List.intercalate gap (ps.map print)

end Passage

end BranchingStory
