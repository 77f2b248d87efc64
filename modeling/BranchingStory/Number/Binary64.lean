/-!
# Binary64 numbers

The numbers of the binary64 format as exact values: `finite negative m e` stands for
`m * 2 ^ e`, negated when `negative`.  `Binary64.ofRatio` gives the number nearest to a
quotient, where a tie goes to the even significand, and `Binary64.ofDecimal` the number
nearest to a decimal.
-/

namespace BranchingStory

/-- A number of the binary64 format.  A finite number has `m < 2 ^ 53` and
`-1074 ≤ e ≤ 971`, and `2 ^ 52 ≤ m` unless `e = -1074`. -/
inductive Binary64 where
  | nan
  | infinite (negative : Bool)
  | finite (negative : Bool) (significand : Nat) (exponent : Int)
  deriving Repr, DecidableEq

/-- The quotient of `a` and `b` to the nearest natural number, a tie to the even one. -/
def divNearest (a b : Nat) : Nat :=
  let q := a / b
  let r := a % b
  if b < 2 * r ∨ (2 * r = b ∧ q % 2 = 1) then q + 1 else q

/-- `n * 2 ^ k` when `k` is not negative. -/
def shiftUp (n : Nat) (k : Int) : Nat :=
  n * Nat.pow 2 k.toNat

/-- `n * 10 ^ k` when `k` is not negative. -/
def scaleUp (n : Nat) (k : Int) : Nat :=
  n * Nat.pow 10 k.toNat

/-- The least significand of a number that is not subnormal, `2 ^ 52`. -/
def leastSignificand : Nat := 4503599627370496

namespace Binary64

/-- The zero of a sign. -/
def zero (negative : Bool) : Binary64 :=
  finite negative 0 (-1074)

/-- The least exponent. -/
def leastExponent : Int := -1074

/-- The greatest exponent. -/
def greatestExponent : Int := 971

/-- The nearest number to `num / den`, negated when `negative`; `den` is positive. -/
def ofRatio (negative : Bool) (num den : Nat) : Binary64 :=
  if num = 0 then zero negative
  else
    let guess : Int := max leastExponent ((num.log2 : Int) - (den.log2 : Int) - 52)
    let floor := shiftUp num (-guess) / shiftUp den guess
    let e : Int := if floor < leastSignificand ∧ leastExponent < guess then guess - 1 else guess
    let m := divNearest (shiftUp num (-e)) (shiftUp den e)
    let (m, e) := if m = 2 * leastSignificand then (leastSignificand, e + 1) else (m, e)
    if greatestExponent < e then infinite negative else finite negative m e

/-- The number of decimal digits of `n`, none for zero. -/
def digitCount (n : Nat) : Nat :=
  if n = 0 then 0 else digitCount (n / 10) + 1
termination_by n
decreasing_by omega

/-- The decimal `d * 10 ^ p` without the zeros at the end of `d`. -/
def dropZeros (d : Nat) (p : Int) : Nat × Int :=
  if d ≠ 0 ∧ d % 10 = 0 then dropZeros (d / 10) (p + 1) else (d, p)
termination_by d
decreasing_by omega

/-- The nearest number to `digits * 10 ^ scale`, negated when `negative`.  Beyond 310
digits before the point the number is infinite, and below 330 zeros behind it zero. -/
def ofDecimal (negative : Bool) (digits : Nat) (scale : Int) : Binary64 :=
  let (d, p) := dropZeros digits scale
  let point := (digitCount d : Int) + p
  if d = 0 ∨ point < -330 then zero negative
  else if 310 < point then infinite negative
  else if 0 ≤ p then ofRatio negative (scaleUp d p) 1
  else ofRatio negative d (scaleUp 1 (-p))

/-- The nearest number to `x / d` for a positive `d`. -/
def divNat (x : Binary64) (d : Nat) : Binary64 :=
  match x with
  | finite negative m e =>
    ofRatio negative (shiftUp m e) (shiftUp d (-e))
  | x => x

/-- The integer between zero and a finite number that is nearest to the number. -/
def truncate? : Binary64 → Option Int
  | finite negative m e =>
    let size : Nat := shiftUp m e / shiftUp 1 (-e)
    some (if negative then -(size : Int) else size)
  | _ => none

/-- The integer that a number equals. -/
def toInt? (x : Binary64) : Option Int :=
  match x with
  | finite _ m e => if shiftUp m e % shiftUp 1 (-e) = 0 then truncate? x else none
  | _ => none

/-- Whether a number equals zero. -/
def isZero : Binary64 → Bool
  | finite _ m _ => m == 0
  | _ => false

/-- Whether a number is at most the natural number `n`; `nan` is not. -/
def isAtMost (x : Binary64) (n : Nat) : Bool :=
  match x with
  | nan => false
  | infinite negative => negative
  | finite negative m e => negative || shiftUp m e ≤ n * shiftUp 1 (-e)

/-- Whether two numbers are equal as numbers: zeros are, and nothing equals `nan`. -/
def sameNumber : Binary64 → Binary64 → Bool
  | nan, _ => false
  | _, nan => false
  | x, y => x == y || (x.isZero && y.isZero)

end Binary64

end BranchingStory
