import BranchingStory.Text.Utf8

/-!
# Hexadecimal digits

The values of hexadecimal digits, in either case, and the bytes that pairs of them write.
-/

namespace BranchingStory

/-- The value of a hexadecimal digit. -/
def hexValue? (c : Char) : Option Nat :=
  let n := c.toNat
  if 48 ≤ n ∧ n ≤ 57 then some (n - 48)
  else if 97 ≤ n ∧ n ≤ 102 then some (n - 87)
  else if 65 ≤ n ∧ n ≤ 70 then some (n - 55)
  else none

/-- The byte that two hexadecimal digits write. -/
def hexByte? (a b : Char) : Option UInt8 := do
  let a ← hexValue? a
  let b ← hexValue? b
  return UInt8.ofNat (a * 16 + b)

/-- Whether a character may stand between two bytes in hexadecimal digits. -/
def isHexGap (c : Char) : Bool :=
  c = ' ' || (9 ≤ c.toNat && c.toNat ≤ 13)

/-- The bytes that a text of hexadecimal digits writes, where blanks of ASCII may stand
between bytes. -/
def hexBytes? : Text → Option Bytes
  | [] => some []
  | a :: t =>
    if isHexGap a then hexBytes? t
    else
      match t with
      | [] => none
      | b :: t => do
        let n ← hexByte? a b
        let ns ← hexBytes? t
        return n :: ns

end BranchingStory
