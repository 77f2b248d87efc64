import BranchingStory.Number.Binary64
import BranchingStory.Text.Digit

/-!
# Shortest decimals

The fewest decimal digits that read back as a given binary64 number.  On the grid of
decimals with `k` digits only the two neighbours of the number can be nearest, so
`Shortest.digits` tries whether these read back for one digit, then for two, and so on;
seventeen suffice.
-/

namespace BranchingStory

namespace Shortest

/-- Whether `d * 10 ^ p` reads back as `m * 2 ^ e`. -/
def readsBack (m : Nat) (e : Int) (d : Nat) (p : Int) : Bool :=
  Binary64.ofDecimal false d p == .finite false m e

/-- Whether `d + 1` is nearer than `d` to `m * 2 ^ e` on the grid of `10 ^ p`, where a
tie goes to the even one. -/
def upperIsNearer (m : Nat) (e : Int) (d : Nat) (p : Int) : Bool :=
  match compare (scaleUp (shiftUp (2 * m) e) (-p)) (scaleUp (shiftUp (2 * d + 1) (-e)) p) with
  | .gt => true
  | .eq => d % 2 == 1
  | .lt => false

/-- The greatest `d` for which `d * 10 ^ p` is at most `m * 2 ^ e`. -/
def floorOnGrid (m : Nat) (e p : Int) : Nat :=
  scaleUp (shiftUp m e) (-p) / scaleUp (shiftUp 1 (-e)) p

/-- The decimal on the grid of `10 ^ p` that reads back and is nearest, if there is one. -/
def onGrid (m : Nat) (e p : Int) : Option Nat :=
  let d := floorOnGrid m e p
  match readsBack m e d p, readsBack m e (d + 1) p with
  | true, true => some (if upperIsNearer m e d p then d + 1 else d)
  | true, false => some d
  | false, true => some (d + 1)
  | false, false => none

/-- The number of digits before the decimal point of `m * 2 ^ e`, less one, estimated
from below by at most one. -/
def magnitude (m : Nat) (e : Int) : Int :=
  let estimate : Int := ((m.log2 : Int) + e) * 30103 / 100000
  if floorOnGrid m e (estimate + 1) = 0 then
    if floorOnGrid m e estimate = 0 then estimate - 1 else estimate
  else
    estimate + 1

/-- All digits of `m * 2 ^ e`. -/
def exact (m : Nat) (e : Int) : Nat × Int :=
  if 0 ≤ e then (shiftUp m e, 0) else (m * Nat.pow 5 (-e).toNat, e)

/-- The first grid with a hit, trying at most `fuel` grids from the one of `10 ^ p` down. -/
def search (m : Nat) (e : Int) : (fuel : Nat) → (p : Int) → Nat × Int
  | 0, _ => exact m e
  | fuel + 1, p =>
    match onGrid m e p with
    | some d => (d, p)
    | none => search m e fuel (p - 1)

/-- The fewest digits `d` with a scale `p` such that `d * 10 ^ p` reads back as
`m * 2 ^ e`, the nearest among these. -/
def digits (m : Nat) (e : Int) : Nat × Int :=
  if m = 0 then (0, 0)
  else
    let (d, p) := search m e 17 (magnitude m e)
    Binary64.dropZeros d p

end Shortest

/-- How the text of a decimal places its point: positionally when the number of digits
before the point is at least `least` and at most `most`, with an exponent of at least
`exponentWidth` digits otherwise, which has a plus sign only where `plusSign` says so. -/
structure PointStyle where
  least : Int
  most : Int
  exponentWidth : Nat
  plusSign : Bool

namespace PointStyle

/-- A sign and the digits of an exponent. -/
def exponentText (s : PointStyle) (e : Int) : Text :=
  let ds := decimalDigits e.natAbs
  (if e < 0 then ['-'] else if s.plusSign then ['+'] else [])
    ++ List.replicate (s.exponentWidth - ds.length) '0' ++ ds

/-- The text of `d * 10 ^ p`. -/
def render (s : PointStyle) (d : Nat) (p : Int) : Text :=
  let ds := decimalDigits d
  let point : Int := if d = 0 then 1 else ds.length + p
  if s.least ≤ point ∧ point ≤ s.most then
    if point ≤ 0 then ['0', '.'] ++ List.replicate (-point).toNat '0' ++ ds
    else
      let whole := ds.take point.toNat
      let fraction := ds.drop point.toNat
      whole ++ List.replicate (point.toNat - ds.length) '0' ++ ['.']
        ++ (if fraction.isEmpty then ['0'] else fraction)
  else
    let more := ds.drop 1
    ds.take 1 ++ (if more.isEmpty then [] else '.' :: more) ++ ['e']
      ++ s.exponentText (point - 1)

end PointStyle

end BranchingStory
