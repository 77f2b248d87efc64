import BranchingStory.Json.Reader
import BranchingStory.Json.Writer
import BranchingStory.Record.Check

/-!
# Records

A record type has a JSON form: an object with one member for each field, in the order
of the fields.  `Record.toJson` gives the form of a value and `Record.check` takes an
object back.  Members that are no field are passed over, fields may have a value that
counts when their member is absent, and of a repeated member the last one counts.
-/

namespace BranchingStory

/-- A type whose values have a JSON form.  `check` reports a value that is no object, and
such values inside it, by the kind it is given. -/
class Record (α : Type) where
  toJson : α → Json
  check (other : IssueKind) : Json → Checked α

namespace Record

variable {α : Type} [Record α]

/-- How deeply the parts of a JSON text may lie inside one another. -/
def depthLimit : Nat := 200

/-- The limits of the text of a record.  Empty arrays and objects do not count as depth, so one
more may lie inside. -/
def limits : Json.Limits := ⟨depthLimit + 1, true, false⟩

/-- Reads a record from JSON text. -/
def read (t : Text) : Checked α :=
  match Json.readWithin limits t with
  | .error _ => Checked.fail .notJson
  | .ok v => if depthLimit < v.depth then Checked.fail .notJson else check .notRecord v

/-- The JSON text of a record in a layout. -/
def write (l : Json.Layout) (a : α) : Text :=
  Json.write l (toJson a)

/-- The JSON form of a list of records. -/
def listToJson (as : List α) : Json :=
  .arr (as.map toJson)

end Record

end BranchingStory
