import BranchingStory.Narrative.Session
import BranchingStory.Record.Basic

/-!
# Records of a step

The JSON forms of segments, choices, turns and routes.
-/

namespace BranchingStory

namespace Segment

/-- The JSON form of a segment. -/
def toJson (s : Segment) : Json :=
  .obj [("speaker", .str s.speaker), ("emotion", .str s.emotion.label), ("text", .str s.text)]

/-- Checks the fields of a segment; it is neutral when no emotion is given. -/
def check (other : IssueKind) : Json → Checked Segment
  | .obj ms =>
    let v := Json.obj ms
    (Checked.pass Segment.mk).ap (Checked.required "speaker" Json.checkText (v.member? "speaker"))
      |>.ap (Checked.optional "emotion" .neutral (Json.checkLabel Emotion.ofLabel?)
        (v.member? "emotion"))
      |>.ap (Checked.required "text" Json.checkText (v.member? "text"))
  | _ => Checked.fail other

instance : Record Segment where
  toJson := toJson
  check := check

end Segment

namespace Choice

/-- The JSON form of a choice. -/
def toJson (c : Choice) : Json :=
  .obj [("id", .str c.id), ("text", .str c.text), ("disabled", .bool c.disabled)]

/-- Checks the fields of a choice; it is enabled unless said otherwise. -/
def check (other : IssueKind) : Json → Checked Choice
  | .obj ms =>
    let v := Json.obj ms
    (Checked.pass Choice.mk).ap (Checked.required "id" Json.checkText (v.member? "id"))
      |>.ap (Checked.required "text" Json.checkText (v.member? "text"))
      |>.ap (Checked.optional "disabled" false Json.checkFlag (v.member? "disabled"))
  | _ => Checked.fail other

instance : Record Choice where
  toJson := toJson
  check := check

end Choice

namespace Stage

/-- Checks that a value is the label of a stage. -/
def check : Json → Checked Stage :=
  Json.checkLabel ofLabel?

end Stage

namespace Progress

/-- The JSON form of stages by their labels. -/
def toJson (p : Progress) : Json :=
  .obj (p.map fun e => (e.1, .str e.2))

end Progress

namespace Json

/-- The JSON form of a list of texts. -/
def ofTexts (ts : List Text) : Json :=
  .arr (ts.map .text)

end Json

namespace Turn

/-- The JSON form of a turn. -/
def toJson (t : Turn) : Json :=
  .obj [("segments", Record.listToJson t.segments), ("choices", Record.listToJson t.choices),
    ("complete", .bool t.complete)]

/-- Checks the fields of a turn. -/
def check (other : IssueKind) : Json → Checked Turn
  | .obj ms =>
    let v := Json.obj ms
    (Checked.pass Turn.mk).ap
        (Checked.optional "segments" [] (Json.checkList (Segment.check other))
          (v.member? "segments"))
      |>.ap (Checked.optional "choices" [] (Json.checkList (Choice.check other))
        (v.member? "choices"))
      |>.ap (Checked.optional "complete" false Json.checkFlag (v.member? "complete"))
  | _ => Checked.fail other

instance : Record Turn where
  toJson := toJson
  check := check

end Turn

namespace Route

/-- The JSON form of a route. -/
def toJson (r : Route) : Json :=
  .obj [("fragment", .str r.fragment), ("completed_threads", .ofTexts r.completed),
    ("character_progress", (Progress.ofStages r.progress).toJson), ("final", .bool r.final)]

/-- Checks the fields of a route. -/
def check (other : IssueKind) : Json → Checked Route
  | .obj ms =>
    let v := Json.obj ms
    (Checked.pass Route.mk).ap (Checked.required "fragment" Json.checkText (v.member? "fragment"))
      |>.ap (Checked.optional "completed_threads" [] (Json.checkList Json.checkText)
        (v.member? "completed_threads"))
      |>.ap (Checked.optional "character_progress" [] (Json.checkMap Json.textOf Stage.check)
        (v.member? "character_progress"))
      |>.ap (Checked.optional "final" false Json.checkFlag (v.member? "final"))
  | _ => Checked.fail other

instance : Record Route where
  toJson := toJson
  check := check

end Route

end BranchingStory
