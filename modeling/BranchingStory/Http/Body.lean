import BranchingStory.Http.Address
import BranchingStory.Http.Message
import BranchingStory.Json.Encoding

/-!
# Bodies

The bodies of requests, read from JSON.  A field may have a second name in the manner of
browsers, which goes first.  A body that is not marked as JSON is no object.
-/

namespace BranchingStory

namespace Http

/-- The place of the body. -/
def bodyStep : Step := .name "body"

/-- A text whose bytes are taken for the codes of characters. -/
def bytewise (t : Text) : Text :=
  (Utf8.encode t).map fun b => Char.ofNat b.toNat

/-- Whether a content type says that a body is JSON; no content type says so too. -/
def saysJson (contentType : Text) : Bool :=
  let kind := Text.lower (Text.trim ((bytewise contentType).takeWhile (· ≠ ';')))
  contentType.isEmpty
    || (match Text.split '/' kind with
        | [main, sub] => main == "application" && (sub == "json" || ("+json" : Text).isSuffixOf sub)
        | _ => false)

/-- A body that cannot be read at all. -/
def unreadable : Problem :=
  .rejected 400 "There was an error parsing the body"

/-- Reads a text as the JSON of a body. -/
def readJson (room : Json.Room) (t : Text) : Except Problem Json :=
  match Json.readMerged room t with
  | .ok v => .ok v
  | .error (.malformed offset) => .error (.invalid [⟨[bodyStep, .index offset], .notJson⟩] .null)
  | .error _ => .error unreadable

/-- Reads the body of a request as JSON. -/
def readBody (r : Request) : Except Problem Json :=
  match r.body with
  | none => .error (.invalid [⟨[bodyStep], .missing⟩] .null)
  | some [] => .error (.invalid [⟨[bodyStep], .missing⟩] .null)
  | some t =>
    if saysJson r.contentType then
      match Json.textOfBytes? (Utf8.encode t) with
      | some t => readJson r.room t
      | none => .error unreadable
    else .ok (.str t)

/-- Reads and checks the body of a request. -/
def checkedBody {α : Type} (r : Request) (check : Json → Checked α) : Except Problem α := do
  let v ← readBody r
  match Checked.under bodyStep (check v) with
  | .ok a => return a
  | .error issues => throw (.invalid issues (.obj [("body", v)]))

/-- Checks a field that has a name for browsers and a plain name. -/
def checkField {α : Type} (v : Json) (browserName name : Str) (absent : α)
    (check : Json → Checked α) : Checked α :=
  match v.member? browserName with
  | some w => Checked.under (.name browserName) (check w)
  | none => Checked.optional name absent check (v.member? name)

/-- Checks an object. -/
def checkObject {α : Type} (check : Json → Checked α) : Json → Checked α
  | .obj ms => check (.obj ms)
  | _ => Checked.fail .notAttributes

/-- Checks that a value is an object, and gives it back. -/
def checkFields : Json → Checked Json
  | .obj ms => .ok (.obj ms)
  | _ => Checked.fail .notMap

/-- The body that asks for a route. -/
structure StoryBody where
  choice : Str
  completed : List Str
  progress : List (Str × Str)

/-- Checks a body that asks for a route. -/
def StoryBody.check : Json → Checked StoryBody :=
  checkObject fun v =>
    (Checked.pass StoryBody.mk).ap
        (Checked.optional "choice" "" Json.checkStr (v.member? "choice"))
      |>.ap (checkField v "completedThreads" "completed_threads" []
        (Json.checkList Json.checkStr))
      |>.ap (checkField v "characterProgress" "character_progress" []
        (Json.checkMap Checked.pass Json.checkStr))

/-- The route that a body asks for. -/
def StoryBody.route (b : StoryBody) : Route Str :=
  Route.resolveStr b.choice b.completed b.progress

/-- The body that creates a conversation. -/
structure CreationBody where
  prompt : Str
  session : Str
  title : Option Str

/-- Checks a body that creates a conversation. -/
def CreationBody.check : Json → Checked CreationBody :=
  checkObject fun v =>
    (Checked.pass CreationBody.mk).ap
        (checkField v "initialPrompt" "initial_prompt" "" Json.checkStr)
      |>.ap (checkField v "userSession" "user_session" "" Json.checkStr)
      |>.ap (Checked.optional "title" none (Json.checkNullable Json.checkStr)
        (v.member? "title"))

/-- The prompt and the title of a body, when they are texts. -/
def CreationBody.texts? (b : CreationBody) : Option (Text × Option Text) := do
  return (← b.prompt.text?, ← b.title.mapM Str.text?)

/-- The body that revises a conversation. -/
structure RevisionBody where
  segments : Option (List Segment)
  choices : Option (List Choice)
  selected : Option Str

/-- Checks a body that revises a conversation; there is nothing to enter when its segments or
choices have strings that are no texts. -/
def RevisionBody.check : Json → Checked (Option RevisionBody) :=
  checkObject fun v =>
    ((Checked.pass RevisionBody.mk).ap
        (Checked.optional "segments" none
          (Json.checkNullable (Json.checkList (Segment.check .notAttributes)))
          (v.member? "segments"))
      |>.ap (Checked.optional "choices" none
        (Json.checkNullable (Json.checkList (Choice.check .notAttributes)))
        (v.member? "choices"))
      |>.ap (checkField v "selectedChoiceId" "selected_choice_id" none
        (Json.checkNullable Json.checkStr))).allowingBroken

/-- The revision that a body asks for; an empty list of choices leaves the choices, and a
string that is no text selects none of them. -/
def RevisionBody.revision (b : RevisionBody) : Revision where
  segments := b.segments.getD []
  choices := match b.choices with
    | some [] => none
    | cs => cs
  selected := (b.selected.bind Str.text?).getD []

/-- Checks a body that takes a choice. -/
def checkChoice : Json → Checked Str :=
  checkObject fun v => Checked.optional "choice" "" Json.checkStr (v.member? "choice")

end Http

end BranchingStory
