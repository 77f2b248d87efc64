import BranchingStory.Story.Emotion

/-!
# Segments

A segment is one displayed unit of narration, action or dialogue.  A transcript gives
each segment a line, narration as it is and anything else behind its speaker.
-/

namespace BranchingStory

/-- One displayed unit of narration, action or dialogue. -/
structure Segment where
  speaker : Text
  emotion : Emotion
  text : Text
  deriving Repr, DecidableEq

namespace Segment

/-- The speaker of narration. -/
def narrator : Text := "NARRATOR"

/-- The transcript line of a segment. -/
def line (s : Segment) : Text :=
  if s.speaker = narrator then s.text
  else
    Text.titleCase s.speaker ++ ['('] ++ s.emotion.label ++ [')', ':', ' '] ++ s.text

/-- The transcript of a list of segments, one line each. -/
def transcript (ss : List Segment) : Text :=
  Text.unlines (ss.map line)

end Segment

end BranchingStory
