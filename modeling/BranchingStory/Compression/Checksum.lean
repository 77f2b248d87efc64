import BranchingStory.Text.Utf8

/-!
# Checksums

Two numbers of 32 bits that tell whether bytes arrived as they were sent: the remainder of
a division of polynomials over bits, and a pair of sums.
-/

namespace BranchingStory

namespace Checksum

/-- One bit of the division; the lowest bit of a remainder is that of the highest power. -/
def divideBit (r : UInt32) : UInt32 :=
  if r % 2 = 1 then r / 2 ^^^ 0xEDB88320 else r / 2

/-- The remainder behind one more byte. -/
def divideByte (r : UInt32) (b : UInt8) : UInt32 :=
  Nat.repeat divideBit 8 (r ^^^ b.toUInt32)

/-- The remainder of bytes, where the first and the last 32 bits are turned round. -/
def remainder (bs : Array UInt8) : Nat :=
  (bs.foldl divideByte 0xFFFFFFFF ^^^ 0xFFFFFFFF).toNat

/-- What the sums are taken modulo: the greatest prime below 65536. -/
def sumModulus : Nat := 65521

/-- The sum of all bytes, which begins with one, and the sum of all those sums. -/
def sums (bs : Array UInt8) : Nat × Nat :=
  bs.foldl (fun s b =>
    let low := (s.1 + b.toNat) % sumModulus
    (low, (s.2 + low) % sumModulus)) (1, 0)

/-- A number of 32 bits with its four bytes turned round. -/
def turnBytes (n : Nat) : Nat :=
  ((n % 256 * 256 + n / 256 % 256) * 256 + n / 65536 % 256) * 256 + n / 16777216 % 256

/-- The two sums as one number, whose bytes are sent from the highest to the lowest. -/
def sumsSent (bs : Array UInt8) : Nat :=
  let (low, high) := sums bs
  turnBytes (high * 65536 + low)

end Checksum

end BranchingStory
