import BranchingStory.Http.Address

/-!
# Endpoints

What the service can be asked for, and the methods and paths under which it is asked.
The table is searched from its front, so the export of all conversations goes before a
conversation of that id.
-/

namespace BranchingStory

namespace Http

/-- What the service can be asked for. -/
inductive Endpoint where
  | health
  | settings
  | changeSettings
  | opening
  | story
  | route
  | conversations
  | create
  | clear
  | exportAll
  | conversation (id : Text)
  | revise (id : Text)
  | delete (id : Text)
  | context (id : Text)
  | start (id : Text)
  | choose (id : Text)
  deriving Repr, DecidableEq

namespace Endpoint

/-- A part of a path: a fixed one, or the id of a conversation. -/
inductive Part where
  | fixed (t : Text)
  | id
  deriving Repr, DecidableEq

/-- A method and a path, and what they ask for when the path holds an id. -/
structure Line where
  method : Text
  parts : List Part
  endpoint : Text → Endpoint

/-- The parts of paths under the service. -/
def under (names : List Text) : List Part :=
  .fixed [] :: .fixed "api" :: names.map .fixed

/-- The parts of paths under a conversation. -/
def underConversation (names : List Text) : List Part :=
  under ["conversations"] ++ .id :: names.map .fixed

/-- All methods and paths. -/
def table : List Line :=
  [⟨"GET", under ["health"], fun _ => health⟩,
   ⟨"GET", under ["settings"], fun _ => settings⟩,
   ⟨"PATCH", under ["settings"], fun _ => changeSettings⟩,
   ⟨"GET", under ["story"], fun _ => opening⟩,
   ⟨"POST", under ["story"], fun _ => story⟩,
   ⟨"POST", under ["story", "route"], fun _ => route⟩,
   ⟨"GET", under ["conversations"], fun _ => conversations⟩,
   ⟨"POST", under ["conversations"], fun _ => create⟩,
   ⟨"DELETE", under ["conversations"], fun _ => clear⟩,
   ⟨"GET", under ["conversations", "export"], fun _ => exportAll⟩,
   ⟨"GET", underConversation [], conversation⟩,
   ⟨"PUT", underConversation [], revise⟩,
   ⟨"DELETE", underConversation [], delete⟩,
   ⟨"GET", underConversation ["context"], context⟩,
   ⟨"POST", underConversation ["start"], start⟩,
   ⟨"POST", underConversation ["choose"], choose⟩]

/-- The id that the segments of a path hold, empty when none is asked for, if they match
the parts.  A line feed at the end of a fixed part at the end does not count. -/
def matchParts : List Part → List Text → Option Text
  | [], [] => some []
  | [.fixed t], [s] => if s = t ∨ s = t ++ ['\n'] then some [] else none
  | .fixed t :: ps, s :: ss => if s = t then matchParts ps ss else none
  | .id :: ps, s :: ss => if s.isEmpty then none else (matchParts ps ss).map fun _ => s
  | _, _ => none

/-- What the lines of the table have for the segments of a path. -/
def candidates (segments : List Text) : List (Text × Endpoint) :=
  table.filterMap fun l => (matchParts l.parts segments).map fun id => (l.method, l.endpoint id)

/-- What a method and a path ask for. -/
inductive Lookup where
  | found (e : Endpoint)
  /-- Another method would be right for the path. -/
  | otherMethod
  /-- The path would be right without the slashes at its end. -/
  | trailingSlash
  | missing
  deriving Repr, DecidableEq

/-- A path without the slashes at its end. -/
def dropSlashes (path : Text) : Text :=
  (path.reverse.dropWhile (· = '/')).reverse

/-- Looks a method and a path up in the table. -/
def lookup (method path : Text) : Lookup :=
  match (candidates (Text.split '/' path)) with
  | [] =>
    if path.getLast? = some '/' ∧ candidates (Text.split '/' (dropSlashes path)) ≠ [] then
      .trailingSlash
    else .missing
  | found =>
    match found.find? (·.1 == method) with
    | some (_, e) => .found e
    | none => .otherMethod

end Endpoint

end Http

end BranchingStory
