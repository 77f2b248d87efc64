import BranchingStory.Json.Basic

/-!
# Tail limits

A parser may offer default choices when little text is left behind the last block.
The tail limit says how little: fewer characters than a count.  Since the limit comes
out of a settings file it may also be another value; a truth value counts as zero or
one and a binary64 number is compared as it is, but other values cannot be compared.
-/

namespace BranchingStory

/-- How much text may be left for the default choices to be offered. -/
inductive TailLimit where
  /-- Default choices are never offered. -/
  | off
  /-- Fewer than `n` characters. -/
  | count (n : Int)
  /-- A value that is no integer. -/
  | value (v : Json)
  deriving Repr

namespace TailLimit

/-- The limit that a settings value describes. -/
def ofJson : Json → TailLimit
  | .null => off
  | .int n => count n
  | v => value v

/-- The settings value of a limit. -/
def toJson : TailLimit → Json
  | off => .null
  | count n => .int n
  | value v => v

/-- Whether default choices are never offered. -/
def isOff : TailLimit → Bool
  | off => true
  | _ => false

/-- Whether a tail of `n` characters is short enough; nothing when the limit cannot be
compared with a count. -/
def admits? (n : Nat) : TailLimit → Option Bool
  | off => some false
  | count m => some ((n : Int) < m)
  | value (.bool b) => some (n < b.toNat)
  | value (.float x) => some (!x.isAtMost n)
  | value _ => none

end TailLimit

end BranchingStory
