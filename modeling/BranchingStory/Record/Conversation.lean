import BranchingStory.Record.Step

/-!
# Conversations

A conversation is a stored playthrough of one user session: what was shown, what may be
chosen next, what was chosen, and the state of the threads.  The labels of the stages are
kept as they were given; the JSON form is only read back when they name stages.
-/

namespace BranchingStory

/-- A stored playthrough. -/
structure Conversation where
  id : Text
  title : Text
  prompt : Text
  session : Text
  created : Text
  updated : Text
  segments : List Segment
  choices : List Choice
  selected : List Text
  completed : List Text
  progress : Progress
  finished : Bool
  deriving Repr, DecidableEq

namespace Conversation

/-- The JSON form of a conversation. -/
def toJson (c : Conversation) : Json :=
  .obj [("id", .str c.id), ("title", .str c.title), ("initial_prompt", .str c.prompt),
    ("user_session", .str c.session), ("created_at", .str c.created),
    ("updated_at", .str c.updated), ("segments", Record.listToJson c.segments),
    ("choices", Record.listToJson c.choices), ("selected_choices", .ofTexts c.selected),
    ("completed_threads", .ofTexts c.completed), ("character_progress", c.progress.toJson),
    ("finished", .bool c.finished)]

/-- Checks stages and keeps their labels. -/
def checkProgress (v : Json) : Checked Progress :=
  (Json.checkMap Json.textOf Stage.check v).map Progress.ofStages

/-- Checks the fields of a conversation. -/
def check (other : IssueKind) : Json → Checked Conversation
  | .obj ms =>
    let v := Json.obj ms
    let text (name : Text) := Checked.required name Json.checkText (v.member? name)
    let texts (name : Text) :=
      Checked.optional name [] (Json.checkList Json.checkText) (v.member? name)
    (Checked.pass Conversation.mk).ap (text "id")
      |>.ap (text "title")
      |>.ap (text "initial_prompt")
      |>.ap (text "user_session")
      |>.ap (text "created_at")
      |>.ap (text "updated_at")
      |>.ap (Checked.optional "segments" [] (Json.checkList (Segment.check other))
        (v.member? "segments"))
      |>.ap (Checked.optional "choices" [] (Json.checkList (Choice.check other))
        (v.member? "choices"))
      |>.ap (texts "selected_choices")
      |>.ap (texts "completed_threads")
      |>.ap (Checked.optional "character_progress" [] checkProgress
        (v.member? "character_progress"))
      |>.ap (Checked.optional "finished" false Json.checkFlag (v.member? "finished"))
  | _ => Checked.fail other

instance : Record Conversation where
  toJson := toJson
  check := check

end Conversation

end BranchingStory
