import BranchingStory.Text.Utf16

/-!
# UTF-7

Text in ASCII, in which a plus sign begins a stretch of digits that stand for the bits of
UTF-16, six a digit.  The machine takes one byte at a time; a stretch is told of when it
has ended.  A hyphen at its end belongs to it.
-/

namespace BranchingStory

namespace Utf7

/-- Where the machine stands: between characters, behind a plus sign, or in a stretch,
whose digits are given with the last one in front. -/
inductive State where
  | start
  | behindPlus
  | stretch (digits : List Nat)
  deriving Repr, DecidableEq

/-- The value of a digit of a stretch. -/
def digitValue? (b : Nat) : Option Nat :=
  if 65 ≤ b ∧ b ≤ 90 then some (b - 65)
  else if 97 ≤ b ∧ b ≤ 122 then some (b - 71)
  else if 48 ≤ b ∧ b ≤ 57 then some (b + 4)
  else if b = 43 then some 62
  else if b = 47 then some 63
  else none

/-- The units of UTF-16 in digits behind `count` bits with a value, and the bits left over:
how many there are and their value. -/
def unitsOf (count value : Nat) : List Nat → List Nat × Nat × Nat
  | [] => ([], count, value)
  | d :: ds =>
    let value := value * 64 + d
    if 16 ≤ count + 6 then
      let left := count + 6 - 16
      let place := Nat.pow 2 left
      let (units, rest) := unitsOf left (value % place) ds
      (value / place :: units, rest)
    else unitsOf (count + 6) value ds

/-- The characters of units, and whether the last one is half a surrogate pair that may
find the other half.  Half a pair without the other half is malformed. -/
def charsOf : List Nat → Utf8.Output × Bool
  | [] => ([], false)
  | [u] =>
    if Utf16.isHigh u then ([], true)
    else ([if Utf16.isLow u then none else some (Char.ofNat u)], false)
  | u :: v :: units =>
    if Utf16.isHigh u then
      if Utf16.isLow v then
        let (out, waits) := charsOf units
        (some (Utf16.join u v) :: out, waits)
      else
        let (out, waits) := charsOf (v :: units)
        (none :: out, waits)
    else
      let (out, waits) := charsOf (v :: units)
      ((if Utf16.isLow u then none else some (Char.ofNat u)) :: out, waits)

/-- The characters of a stretch, whether its last unit waits for the other half of a pair,
and whether its digits are those of whole units. -/
def readStretch (digits : List Nat) : Utf8.Output × Bool × Bool :=
  let (units, count, value) := unitsOf 0 0 digits.reverse
  let (out, waits) := charsOf units
  (out, waits, count < 6 && value = 0)

/-- The byte between characters. -/
def first (b : Nat) : Utf8.Output × State :=
  if b = 43 then ([], .behindPlus)
  else ([if b < 0x80 then some (Char.ofNat b) else none], .start)

/-- One byte. -/
def step : State → Nat → Utf8.Output × State
  | .start, b => first b
  | .behindPlus, b =>
    if b = 45 then ([some '+'], .start)
    else
      match digitValue? b with
      | some d => ([], .stretch [d])
      | none => ([none], .start)
  | .stretch digits, b =>
    match digitValue? b with
    | some d => ([], .stretch (d :: digits))
    | none =>
      match readStretch digits with
      | (out, _, false) => (out ++ [none], .start)
      | (out, waits, true) =>
        let half := if waits && b < 0x80 then [none] else []
        let (more, s) := if b = 45 then ([], .start) else first b
        (out ++ half ++ more, s)

/-- Several bytes. -/
def run : State → Bytes → Utf8.Output × State
  | s, [] => ([], s)
  | s, b :: bs =>
    let (out, s) := step s b.toNat
    let (more, s) := run s bs
    (out ++ more, s)

/-- The end of the text. -/
def finish : State → Utf8.Output
  | .stretch digits =>
    let (out, waits, whole) := readStretch digits
    if waits || !whole then out ++ [none] else out
  | _ => []

end Utf7

end BranchingStory
