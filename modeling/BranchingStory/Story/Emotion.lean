import BranchingStory.Text.Blank
import BranchingStory.Text.Case

/-!
# Emotions

The fifteen emotions of a segment, each with its label, and the emotion that a free
expression label names.  `Emotion.ofExpression` ignores case and the spacing of the
words, knows a few further words, and takes everything else for neutral.
-/

namespace BranchingStory

/-- How a segment is said or shown. -/
inductive Emotion where
  | neutral
  | happy
  | sad
  | angry
  | surprised
  | thinking
  | confident
  | concern
  | annoyed
  | blushing
  | crying
  | disgusted
  | fear
  | veryHappy
  | deeplyInLove
  deriving Repr, DecidableEq

namespace Emotion

/-- All emotions. -/
def all : List Emotion :=
  [neutral, happy, sad, angry, surprised, thinking, confident, concern, annoyed, blushing,
   crying, disgusted, fear, veryHappy, deeplyInLove]

/-- The label of an emotion. -/
def label : Emotion → Text
  | neutral => "neutral"
  | happy => "happy"
  | sad => "sad"
  | angry => "angry"
  | surprised => "surprised"
  | thinking => "thinking"
  | confident => "confident"
  | concern => "concern"
  | annoyed => "annoyed"
  | blushing => "blushing"
  | crying => "crying"
  | disgusted => "disgusted"
  | fear => "fear"
  | veryHappy => "very happy"
  | deeplyInLove => "deeply in love"

/-- The emotion of a label. -/
def ofLabel? (t : Text) : Option Emotion :=
  all.find? (·.label == t)

/-- Words that authors use for an emotion besides its label. -/
def aliases : List (Text × Emotion) :=
  [("concerned", concern), ("worried", concern), ("afraid", fear), ("scared", fear),
   ("blush", blushing), ("in love", deeplyInLove), ("shocked", surprised),
   ("thoughtful", thinking)]

/-- The emotion that an expression label names, neutral when it names none. -/
def ofExpression (t : Text) : Emotion :=
  let word := Text.squeeze (Text.lower t)
  ((ofLabel? word).or (aliases.lookup word)).getD neutral

/-- The emotion of an expression label that may be missing. -/
def ofExpression? : Option Text → Emotion
  | none => neutral
  | some t => ofExpression t

end Emotion

end BranchingStory
