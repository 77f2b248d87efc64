import BranchingStory.Entries
import BranchingStory.Narrative.Hub

/-!
# Routing

From a choice and the state of the threads, `Route.resolve` gives the next fragment and
the state to carry on.  A character's stage only ever rises: an answer to the opening
raises it to the second stage and an answer to the reply to the closing one.  Going
back to the hub after a closing completes the thread.  Stage labels that name no stage
are dropped, and a thread listed as completed twice counts once.
-/

namespace BranchingStory

/-- How far each character's thread has come, by the label of the stage as it was given. -/
abbrev Progress (κ : Type := Text) := List (κ × Text)

namespace Progress

/-- The entries whose label names a stage. -/
def stages {κ : Type} (p : Progress κ) : List (κ × Stage) :=
  p.filterMap fun e => (Stage.ofLabel? e.2).map fun s => (e.1, s)

/-- The entries whose label is a text; no other label names a stage. -/
def ofStrs {κ : Type} (es : List (κ × Str)) : Progress κ :=
  es.filterMap fun e => e.2.text?.map fun t => (e.1, t)

/-- Stages by their labels. -/
def ofStages {κ : Type} (es : List (κ × Stage)) : Progress κ :=
  Entries.mapValues Stage.label es

end Progress

/-- The next fragment, the state of the threads to carry on, and whether this is the
epilogue. -/
structure Route (κ : Type := Text) where
  fragment : Text
  completed : List κ
  progress : List (κ × Stage)
  final : Bool
  deriving Repr, DecidableEq

namespace Route

variable {κ : Type} [ThreadName κ] [DecidableEq κ]

/-- The stage of a character's thread. -/
def stageOf (es : List (κ × Stage)) (c : Character) : Stage :=
  (Entries.get? es c.thread).getD .unset

/-- Raises the stage of a character's thread to `s`, if it is lower. -/
def advance (es : List (κ × Stage)) (c : Character) (s : Stage) : List (κ × Stage) :=
  if (stageOf es c).rank < s.rank then Entries.put c.thread s es else es

/-- Adds a name at the end of a list unless it is there. -/
def addOnce {α : Type} [BEq α] (names : List α) (name : α) : List α :=
  if names.contains name then names else names ++ [name]

/-- The names of a list in their order, each once. -/
def distinct {α : Type} [BEq α] (names : List α) : List α :=
  names.foldl addOnce []

/-- The route of a choice of a kind, where `completed` names each thread once. -/
def ofKind [BEq κ] (completed : List κ) (progress : List (κ × Stage)) : ChoiceKind → Route κ
  | .talk c => ⟨Fragment.text c (stageOf progress c), completed, progress, false⟩
  | .stageOne c =>
    ⟨Fragment.text c .second, completed, advance progress c .second, false⟩
  | .stageTwo c => ⟨Fragment.text c .close, completed, advance progress c .close, false⟩
  | .returnToHub c =>
    let completed := addOnce completed c.thread
    ⟨Hub.text completed, completed, progress, false⟩
  | .endStory => ⟨Fragment.epilogue, completed, progress, true⟩
  | _ => ⟨Hub.text completed, completed, progress, false⟩

/-- The route of a choice id. -/
def resolve (id : Text) (completed : List Text) (progress : Progress) : Route :=
  ofKind (distinct completed) progress.stages (ChoiceKind.ofId id)

/-- The route of a choice id and names that may be no texts. -/
def resolveStr (id : Str) (completed : List Str) (progress : List (Str × Str)) : Route Str :=
  ofKind (distinct completed) (Progress.ofStrs progress).stages (ChoiceKind.ofStr id)

end Route

end BranchingStory
