import BranchingStory.Store.Basic

/-!
# Unchecked values

A caller of the store may hand over values of any kind.  A `Substitution` puts them in the
places of parts of a conversation: what is stored then may be no record any more, which
shows when it is read back.  Strings that are no texts are not stored.
-/

namespace BranchingStory

/-- Values for parts of a conversation; what is not given stays as it is. -/
structure Substitution where
  completed : Option (List Json) := none
  progress : Option (List (Str × Json)) := none
  finished : Option Json := none

/-- The JSON form of a conversation with values in the places of its parts. -/
def Substitution.form (u : Substitution) (c : Conversation) : Json :=
  let v := c.toJson
  let v := u.completed.elim v fun vs => v.put "completed_threads" (.arr vs)
  let v := u.progress.elim v fun es => v.put "character_progress" (.obj es)
  u.finished.elim v fun w => v.put "finished" w

/-- Without values the form is that of the conversation. -/
theorem Substitution.form_none (c : Conversation) :
  Substitution.form {} c = c.toJson
  := rfl

namespace Store

/-- Enters a step into a conversation, if it is there, and puts values in the places of its
parts.  The outcome is what was stored. -/
def substitute? (session id : Text) (r : Revision) (u : Substitution) :
    Action (Option Json) := do
  match ← find? session id with
  | none => return none
  | some c =>
    let c := c.revise r (← nextStamp)
    if (u.form c).hasHalf then saveBroken c.session c.id
    else
      let s ← get
      let d ← settle .archive (Archive.saveForm s.disk c.session c.id (u.form c))
      set { s with disk := d }
      return some (u.form c)

/-- The number of segments that a value asks for.  A truth value counts as zero or one, and
a binary64 number asks for none when it is not positive. -/
def countOf? : Json → Option Int
  | .bool b => some b.toNat
  | .int n => some n
  | .float x => if x.isAtMost 0 then some 0 else none
  | _ => none

/-- The last segments of a conversation, as many as a value asks for, and none when the
conversation is not there. -/
def contextFor (session id : Text) (v : Json) : Action (List Segment) := do
  match ← find? session id, countOf? v with
  | none, _ => return []
  | some c, some n => return c.lastSegments n
  | some _, none => throw .count

end Store

end BranchingStory
