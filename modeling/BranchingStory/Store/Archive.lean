import BranchingStory.Record.Conversation
import BranchingStory.Store.Disk
import BranchingStory.Store.Key

/-!
# The archive of conversations

Every session has a folder on the disk, and every conversation of it a file named by its
id.  A conversation is stored where its own session and id lead.
-/

namespace BranchingStory

namespace Archive

/-- Why the archive does not answer. -/
inductive Fault where
  | key (f : KeyFault)
  | record (issues : List Issue)
  | disk (f : Disk.Fault)
  /-- A string that is no text was to be stored. -/
  | brokenText
  deriving Repr, DecidableEq

/-- The folder of all sessions. -/
def root : Path := ["sessions"]

/-- What the name of a conversation's file ends with. -/
def fileEnding : Text := ".json"

/-- The folder of a session. -/
def folder (session : Text) : Except KeyFault Path :=
  (Key.check Key.sessionRole session).map fun key => root ++ [key]

/-- The file of a conversation. -/
def path (session id : Text) : Except KeyFault Path := do
  let f ← folder session
  let key ← Key.check Key.conversationRole id
  return f ++ [key ++ fileEnding]

/-- Reads the conversation of a file. -/
def readAt (d : Disk) (p : Path) : Except Fault Conversation := do
  let t ← (d.read p).mapError .disk
  (Record.read t).mapError .record

/-- The conversation of a session with an id. -/
def find? (d : Disk) (session id : Text) : Except Fault (Option Conversation) := do
  let p ← (path session id).mapError .key
  if d.hasFile p then
    return some (← readAt d p)
  else
    return none

/-- The files of conversations in a folder. -/
def filesIn (d : Disk) (f : Path) : List Path :=
  (d.inside f).filter fun p => fileEnding.isSuffixOf (p.getLastD [])

/-- The conversations of a session, those updated last first. -/
def all (d : Disk) (session : Text) : Except Fault (List Conversation) := do
  let f ← (folder session).mapError .key
  let cs ← (filesIn d f).mapM (readAt d)
  return cs.mergeSort fun a b => Text.isAtMost b.updated a.updated

/-- Stores the JSON form of the conversation of a session with an id. -/
def saveForm (d : Disk) (session id : Text) (form : Json) : Except Fault Disk := do
  let p ← (path session id).mapError .key
  (d.store p (Json.write .indented form)).mapError .disk

/-- Stores a conversation. -/
def save (d : Disk) (c : Conversation) : Except Fault Disk :=
  saveForm d c.session c.id c.toJson

/-- Takes a conversation away, if it is there. -/
def remove? (d : Disk) (session id : Text) : Except Fault (Option Disk) := do
  let p ← (path session id).mapError .key
  return if d.hasFile p then some (d.remove p) else none

end Archive

/-- A step of a story that is to be entered into a conversation; what is not given stays
as it is. -/
structure Revision where
  segments : List Segment := []
  choices : Option (List Choice) := none
  selected : Text := []
  completed : Option (List Text) := none
  progress : Option Progress := none
  finished : Option Bool := none

namespace Conversation

/-- A conversation that has not started. -/
def new (id title prompt session now : Text) : Conversation where
  id := id
  title := title
  prompt := prompt
  session := session
  created := now
  updated := now
  segments := []
  choices := []
  selected := []
  completed := []
  progress := []
  finished := false

/-- The conversation with a step entered: segments are added, other parts replaced, and a
selected choice is noted when it was among the choices before. -/
def revise (c : Conversation) (r : Revision) (now : Text) : Conversation :=
  { c with
    selected := if Choice.isOffered r.selected c.choices && !r.selected.isEmpty
      then c.selected ++ [r.selected] else c.selected
    segments := c.segments ++ r.segments
    choices := r.choices.getD c.choices
    completed := r.completed.getD c.completed
    progress := r.progress.getD c.progress
    finished := r.finished.getD c.finished
    updated := now }

/-- The last `n` segments, oldest first. -/
def lastSegments (c : Conversation) (n : Int) : List Segment :=
  c.segments.drop (c.segments.length - n.toNat)

end Conversation

end BranchingStory
