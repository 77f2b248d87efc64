import BranchingStory.Text.Utf8

/-!
# UTF-16

UTF-16 in either order of bytes.  `Utf16.run` takes as many characters from the front of
some bytes as there are; half a surrogate pair without the other half is malformed.
-/

namespace BranchingStory

namespace Utf16

/-- The unit of two bytes. -/
def unitOf (big : Bool) (a b : UInt8) : Nat :=
  if big then a.toNat * 256 + b.toNat else b.toNat * 256 + a.toNat

/-- Whether a unit is the first half of a surrogate pair. -/
def isHigh (u : Nat) : Bool :=
  0xD800 ≤ u && u < 0xDC00

/-- Whether a unit is the second half of a surrogate pair. -/
def isLow (u : Nat) : Bool :=
  0xDC00 ≤ u && u < 0xE000

/-- The character of a surrogate pair. -/
def join (high low : Nat) : Char :=
  Char.ofNat (0x10000 + (high - 0xD800) * 0x400 + (low - 0xDC00))

/-- The characters of some bytes, and the bytes at their end that are not enough for one. -/
def run (big : Bool) : Bytes → Utf8.Output × Bytes
  | a :: b :: rest =>
    let u := unitOf big a b
    if isHigh u then
      match rest with
      | c :: d :: rest' =>
        let v := unitOf big c d
        if isLow v then
          let (out, kept) := run big rest'
          (some (join u v) :: out, kept)
        else
          let (out, kept) := run big (c :: d :: rest')
          (none :: out, kept)
      | _ => ([], a :: b :: rest)
    else
      let (out, kept) := run big rest
      ((if isLow u then none else some (Char.ofNat u)) :: out, kept)
  | rest => ([], rest)

end Utf16

end BranchingStory
