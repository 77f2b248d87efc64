import BranchingStory.Text.Basic

/-!
# Entries

A map from keys to values that remembers the order in which its keys came in.  The keys
of `Entries` are texts; the operations work for keys of any type with decidable equality.
-/

namespace BranchingStory

/-- Keys with their values, in the order in which the keys came in. -/
abbrev Entries (α : Type) := List (Text × α)

namespace Entries

variable {κ α β : Type} [DecidableEq κ]

/-- The value at `key`. -/
def get? (es : List (κ × α)) (key : κ) : Option α :=
  (es.find? (·.1 == key)).map (·.2)

/-- Whether `key` has a value. -/
def hasKey (es : List (κ × α)) (key : κ) : Bool :=
  es.any (·.1 == key)

/-- Gives `key` the value `a`: a key that is there keeps its place, another goes last. -/
def put (key : κ) (a : α) : List (κ × α) → List (κ × α)
  | [] => [(key, a)]
  | e :: es => if e.1 = key then (key, a) :: es else e :: put key a es

/-- The map that pairs describe: a repeated key keeps its first place and takes its last
value. -/
def ofPairs (pairs : List (κ × α)) : List (κ × α) :=
  pairs.foldl (fun es p => put p.1 p.2 es) []

/-- The map without `key`. -/
def erase (key : κ) (es : List (κ × α)) : List (κ × α) :=
  es.filter (·.1 ≠ key)

omit [DecidableEq κ] in
/-- The map with every value replaced by its image. -/
def mapValues (f : α → β) (es : List (κ × α)) : List (κ × β) :=
  es.map fun e => (e.1, f e.2)

end Entries

end BranchingStory
