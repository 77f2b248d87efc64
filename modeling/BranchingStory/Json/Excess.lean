import BranchingStory.Json.Reader
import BranchingStory.Json.Writer

/-!
# Values beyond the limits

A value is not written when its text would not be read: an integer has too many digits, or
arrays and objects lie too deep inside one another.
-/

namespace BranchingStory

namespace Json

mutual

/-- The first thing in a value that is beyond the limits, when `room` more arrays and objects may
lie inside one another. -/
def excess? : (room : Nat) → Json → Option ReadFault
  | _, int n =>
    let digits := (decimalDigits n.natAbs).length
    if Reader.integerLimit < digits then some (.integerTooLong digits) else none
  | 0, arr _ => some .tooDeep
  | 0, obj _ => some .tooDeep
  | room + 1, arr vs => excessItem? room vs
  | room + 1, obj ms => excessMember? room ms
  | _, _ => none

/-- `excess?` for the items of an array. -/
def excessItem? (room : Nat) : List Json → Option ReadFault
  | [] => none
  | v :: vs => excess? room v <|> excessItem? room vs

/-- `excess?` for the members of an object. -/
def excessMember? (room : Nat) : List (Str × Json) → Option ReadFault
  | [] => none
  | (_, v) :: ms => excess? room v <|> excessMember? room ms

end

/-- The text of a value in a layout, if nothing in the value is beyond the limits. -/
def writeWithin (room : Room) (l : Layout) (v : Json) : Except ReadFault Text :=
  match v.excess? room.depth with
  | some f => .error f
  | none => .ok (write l v)

end Json

end BranchingStory
