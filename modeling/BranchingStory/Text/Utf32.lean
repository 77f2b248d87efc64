import BranchingStory.Text.Utf8

/-!
# UTF-32

UTF-32 in either order of bytes.  A surrogate or a code beyond U+10FFFF is malformed.
-/

namespace BranchingStory

namespace Utf32

/-- The code of four bytes. -/
def codeOf (big : Bool) (a b c d : UInt8) : Nat :=
  if big then ((a.toNat * 256 + b.toNat) * 256 + c.toNat) * 256 + d.toNat
  else ((d.toNat * 256 + c.toNat) * 256 + b.toNat) * 256 + a.toNat

/-- The character of a code. -/
def char? (n : Nat) : Option Char :=
  if n.isValidChar then some (Char.ofNat n) else none

/-- The characters of some bytes, and the bytes at their end that are not enough for one. -/
def run (big : Bool) : Bytes → Utf8.Output × Bytes
  | a :: b :: c :: d :: rest =>
    let (out, kept) := run big rest
    (char? (codeOf big a b c d) :: out, kept)
  | rest => ([], rest)

end Utf32

end BranchingStory
