import BranchingStory.Entries
import BranchingStory.Number.Binary64
import BranchingStory.Text.Str

/-!
# JSON values

The values of JSON with integers of any size, binary64 numbers and objects that keep
the order of their members.  An object as it is read may repeat a member;
`Json.merged` settles repetitions throughout a value.
-/

namespace BranchingStory

/-- A JSON value. -/
inductive Json where
  | null
  | bool (b : Bool)
  | int (n : Int)
  | float (x : Binary64)
  | str (s : Str)
  | arr (items : List Json)
  | obj (members : List (Str × Json))
  deriving Repr

namespace Json

instance : Inhabited Json where
  default := null

/-- The value that is a text. -/
abbrev text (t : Text) : Json := str t

/-- The member of a value of a given name; the last one counts when the name is repeated. -/
def member? (name : Str) : Json → Option Json
  | obj members => Entries.get? members.reverse name
  | _ => none

/-- An object with a member, in its place when it is there and last otherwise; other values
stay as they are. -/
def put (w : Json) (name : Str) (v : Json) : Json :=
  match w with
  | obj members => obj (Entries.put name v members)
  | _ => w

/-- The text that a value is. -/
def text? : Json → Option Text
  | str s => s.text?
  | _ => none

mutual

/-- The value in which every object has each member once, a repeated member in its first
place and with its last value. -/
def merged : Json → Json
  | arr items => arr (mergedItems items)
  | obj members => obj (Entries.ofPairs (mergedMembers members))
  | v => v

/-- `merged` for the items of an array. -/
def mergedItems : List Json → List Json
  | [] => []
  | v :: vs => merged v :: mergedItems vs

/-- `merged` for the values of an object's members. -/
def mergedMembers : List (Str × Json) → List (Str × Json)
  | [] => []
  | (k, v) :: ms => (k, merged v) :: mergedMembers ms

end

mutual

/-- How deeply arrays and objects that are not empty lie inside one another. -/
def depth : Json → Nat
  | arr (v :: vs) => depthItems (v :: vs) + 1
  | obj (m :: ms) => depthMembers (m :: ms) + 1
  | _ => 0

/-- The greatest depth among the items of an array. -/
def depthItems : List Json → Nat
  | [] => 0
  | v :: vs => max (depth v) (depthItems vs)

/-- The greatest depth among the members of an object. -/
def depthMembers : List (Str × Json) → Nat
  | [] => 0
  | (_, v) :: ms => max (depth v) (depthMembers ms)

end

mutual

/-- Whether a value holds an infinite number or one that is none. -/
def hasNonFinite : Json → Bool
  | float (.finite _ _ _) => false
  | float _ => true
  | arr items => hasNonFiniteItem items
  | obj members => hasNonFiniteMember members
  | _ => false

/-- `hasNonFinite` for the items of an array. -/
def hasNonFiniteItem : List Json → Bool
  | [] => false
  | v :: vs => hasNonFinite v || hasNonFiniteItem vs

/-- `hasNonFinite` for the members of an object. -/
def hasNonFiniteMember : List (Str × Json) → Bool
  | [] => false
  | (_, v) :: ms => hasNonFinite v || hasNonFiniteMember ms

end

mutual

/-- The strings in a value, the names of members among them. -/
def strs : Json → List Str
  | str s => [s]
  | arr items => strsOfItems items
  | obj members => strsOfMembers members
  | _ => []

/-- The strings in the items of an array. -/
def strsOfItems : List Json → List Str
  | [] => []
  | v :: vs => strs v ++ strsOfItems vs

/-- The strings in the members of an object. -/
def strsOfMembers : List (Str × Json) → List Str
  | [] => []
  | (k, v) :: ms => k :: strs v ++ strsOfMembers ms

end

/-- Whether a value holds half of a surrogate pair. -/
def hasHalf (v : Json) : Bool :=
  v.strs.any Str.hasHalf

end Json

end BranchingStory
