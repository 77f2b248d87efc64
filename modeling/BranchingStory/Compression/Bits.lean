import BranchingStory.Text.Utf8

/-!
# Bits

The bits of bytes, from the lowest bit of each byte to the highest.  A number is read from
its lowest bit on, and reading fails when the bits do not suffice yet or make no sense.
-/

namespace BranchingStory

/-- Bits, one after another. -/
abbrev Bits := List Bool

namespace Bits

/-- The bits of a byte. -/
def ofByte (b : UInt8) : Bits :=
  (List.range 8).map b.toNat.testBit

/-- The bits of bytes. -/
def ofBytes (bs : Bytes) : Bits :=
  bs.flatMap ofByte

/-- Why reading stops. -/
inductive Stop where
  /-- More bits have to come. -/
  | unfinished
  | malformed
  deriving Repr, DecidableEq

/-- The number that the first `n` bits write, and the bits behind them. -/
def read : (n : Nat) → Bits → Except Stop (Nat × Bits)
  | 0, bits => .ok (0, bits)
  | _ + 1, [] => .error .unfinished
  | n + 1, b :: bits => (read n bits).map fun r => (b.toNat + 2 * r.1, r.2)

/-- Reading a number takes as many bits as it is told. -/
theorem length_of_read {n v : Nat} {bits rest : Bits} (h : read n bits = .ok (v, rest)) :
  rest.length + n = bits.length
  := by
  induction n generalizing v bits rest with
  | zero => simp_all [read]
  | succ n ih =>
    cases bits with
    | nil => simp [read] at h
    | cons b bits =>
      cases hr : read n bits with
      | error e => simp [read, hr, Except.map] at h
      | ok r =>
        obtain ⟨v', rest'⟩ := r
        simp only [read, hr, Except.map, Except.ok.injEq, Prod.mk.injEq] at h
        have := ih hr
        rw [← h.2, List.length_cons]
        omega

/-- The bits from the next byte on, when all bits together are those of whole bytes. -/
def align (bits : Bits) : Bits :=
  bits.drop (bits.length % 8)

theorem length_align_le (bits : Bits) :
  bits.align.length ≤ bits.length
  := by
  simp [align]

end Bits

end BranchingStory
