import BranchingStory.Json.Alike
import BranchingStory.Record.Step

/-!
# Routing from JSON values

Routes for a state of the threads that comes as JSON values.  Completed threads that mean
the same count once; each must then be a string.  The hub cannot look up a list or an
object, so such a value is at fault before its issue is found.
-/

namespace BranchingStory

namespace Route

/-- Why there is no route. -/
inductive Fault where
  /-- Values that stand for completed threads are no strings. -/
  | issues (list : List Issue)
  /-- The hub is to look up a list or an object. -/
  | compoundName
  deriving Repr, DecidableEq

/-- Adds a value at the end of a list unless one that means the same is there. -/
def addUnlike (vs : List Json) (v : Json) : List Json :=
  if vs.any (Json.alike v) then vs else vs ++ [v]

/-- Whether the route of a kind shows the hub. -/
def showsHub : ChoiceKind → Bool
  | .returnToHub _ => true
  | .chooseOther => true
  | .unrecognized => true
  | _ => false

/-- The labels among values; no other value names a stage. -/
def labels (progress : List (Str × Json)) : Progress Str :=
  progress.filterMap fun e => e.2.text?.map fun t => (e.1, t)

/-- The route of a choice id for completed threads and progress that come as values. -/
def ofJson (id : Str) (completed : List Json) (progress : List (Str × Json)) :
    Except Fault (Route Str) :=
  let kind := ChoiceKind.ofStr id
  let distinct := completed.foldl addUnlike []
  if showsHub kind && distinct.any Json.isCompound then .error .compoundName
  else
    match Checked.under (.name "completed_threads")
        (Json.checkList Json.checkStr (.arr distinct)) with
    | .error list => .error (.issues list)
    | .ok names => .ok (ofKind names (labels progress).stages kind)

end Route

end BranchingStory
