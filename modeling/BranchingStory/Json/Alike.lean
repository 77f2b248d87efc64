import BranchingStory.Json.Basic

/-!
# Alike JSON values

Two JSON values are alike when they mean the same: numbers by their values, where true
counts as one and false as zero, objects without regard to the order of their members.
-/

namespace BranchingStory

namespace Json

/-- The integer that a number or a truth value equals. -/
def integer? : Json → Option Int
  | bool b => some b.toNat
  | int n => some n
  | float x => x.toInt?
  | _ => none

mutual

/-- Whether two values mean the same; no object has a member twice. -/
def alike : Json → Json → Bool
  | null, null => true
  | str s, str t => s == t
  | arr vs, arr ws => alikeItems vs ws
  | obj ms, obj ns => ms.length == ns.length && alikeMembers ms ns
  | float x, float y => x == y || Binary64.sameNumber x y
  | v, w =>
    match v.integer?, w.integer? with
    | some n, some m => n == m
    | _, _ => false

/-- Whether the items of two lists mean the same. -/
def alikeItems : List Json → List Json → Bool
  | [], [] => true
  | v :: vs, w :: ws => alike v w && alikeItems vs ws
  | _, _ => false

/-- Whether each member of the first object has one that means the same in the second. -/
def alikeMembers : List (Str × Json) → List (Str × Json) → Bool
  | [], _ => true
  | (k, v) :: ms, ns =>
    (match Entries.get? ns k with
      | some w => alike v w
      | none => false) && alikeMembers ms ns

end

/-- Whether a value is a list or an object. -/
def isCompound : Json → Bool
  | arr _ => true
  | obj _ => true
  | _ => false

end Json

end BranchingStory
