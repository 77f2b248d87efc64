import BranchingStory.Charset.Chart.KsX1001
import BranchingStory.Charset.Front

/-!
# Korean charsets

KS X 1001 has only some of the syllables.  The others are told by their letters, or stand
in the other pairs in the order of their codes, or every syllable is told by its letters,
five bits for each.
-/

namespace BranchingStory

namespace Charset.Korean

/-- The code of the first syllable. -/
def firstSyllable : Nat := 0xAC00

/-- The number of syllables. -/
def syllableCount : Nat := 11172

/-- The code of the syllable of an initial letter, a vowel and perhaps a final letter. -/
def syllable (initial vowel final : Nat) : Char :=
  Char.ofNat (firstSyllable + (initial * 21 + vowel) * 28 + final)

/-- The character of a pair in KS X 1001. -/
def ksX1001? (a b : Nat) : Option Char :=
  highPair? (Chart.char? Chart.ksX1001) a b

/-! ## Syllables told by their letters -/

/-- The letters from U+3131 on that begin a syllable. -/
def initials : List Nat :=
  [0, 1, 3, 6, 7, 8, 16, 17, 18, 20, 21, 22, 23, 24, 25, 26, 27, 28, 29]

/-- The letters from U+3131 on that end a syllable. -/
def finals : List Nat :=
  [0, 1, 2, 3, 4, 5, 6, 8, 9, 10, 11, 12, 13, 14, 15, 16, 17, 19, 20, 21, 22, 23, 25, 26, 27, 28,
   29]

/-- The row of letters. -/
def letterRow : UInt8 := 0xA4

/-- The column that stands for no letter. -/
def filler : UInt8 := 0xD4

/-- The syllable of the columns of its letters. -/
def composed? (initial vowel final : UInt8) : Option Char := do
  let i ← initials.idxOf? (← if initial < 0xA1 then none else some (initial.toNat - 0xA1))
  let v ← if 0xBF ≤ vowel ∧ vowel ≤ 0xD3 then some (vowel.toNat - 0xBF) else none
  let f ←
    if final = filler then some 0
    else if final < 0xA1 then none
    else (finals.idxOf? (final.toNat - 0xA1)).map (· + 1)
  return syllable i v f

/-- Two bytes, or eight that begin with a filler and tell a syllable by its letters. -/
def pairOrLetters (a : UInt8) (rest : Bytes) : Front Unit :=
  if a = letterRow ∧ rest.head? = some filler then
    match rest with
    | _ :: r1 :: i :: r2 :: v :: r3 :: f :: _ =>
      if r1 = letterRow ∧ r2 = letterRow ∧ r3 = letterRow then
        match composed? i v f with
        | some c => .text 7 [c] ()
        | none => .malformed 0
      else .malformed 0
    | _ => .unfinished
  else Front.pair (fun a b => (ksX1001? a b).map ([·])) a rest

/-! ## The other syllables -/

/-- The syllables that are not in KS X 1001, in the order of their codes. -/
def otherSyllables : Array Nat :=
  (Chart.Marks.none.addChart Chart.ksX1001).othersIn firstSyllable syllableCount

/-- The place of a second byte: letters, small letters, and bytes with the high bit set. -/
def column? (b : Nat) : Option Nat :=
  if 0x41 ≤ b ∧ b ≤ 0x5A then some (b - 0x41)
  else if 0x61 ≤ b ∧ b ≤ 0x7A then some (b - 0x61 + 26)
  else if 0x81 ≤ b ∧ b ≤ 0xFE then some (b - 0x81 + 52)
  else none

/-- The place of a pair among those that hold the other syllables. -/
def otherPlace? (a b : Nat) : Option Nat := do
  let column ← column? b
  if 0x81 ≤ a ∧ a ≤ 0xA0 then some ((a - 0x81) * 178 + column)
  else if 0xA1 ≤ a ∧ a ≤ 0xC6 ∧ column < 84 then some (32 * 178 + (a - 0xA1) * 84 + column)
  else none

/-- The character of a pair with the other syllables. -/
def windowsKorean? (a b : Nat) : Option Char :=
  (ksX1001? a b).or (((otherPlace? a b).bind (otherSyllables[·]?)).map Char.ofNat)

/-! ## Syllables in bits -/

/-- A letter in five bits. -/
inductive Letter where
  | missing
  | letter (index : Nat)
  deriving Repr, DecidableEq

/-- The initial letter of five bits. -/
def initial? (n : Nat) : Option Letter :=
  if n = 1 then some .missing
  else if 2 ≤ n ∧ n ≤ 20 then some (.letter (n - 2))
  else none

/-- The vowel of five bits. -/
def vowel? (n : Nat) : Option Letter :=
  if n = 2 then some .missing
  else if 3 ≤ n ∧ n ≤ 29 ∧ 2 ≤ n % 8 then some (.letter (n - 3 - n / 8 * 2))
  else none

/-- The final letter of five bits. -/
def final? (n : Nat) : Option Letter :=
  if n = 1 then some .missing
  else if 2 ≤ n ∧ n ≤ 17 then some (.letter (n - 2))
  else if 19 ≤ n ∧ n ≤ 29 then some (.letter (n - 3))
  else none

/-- The code of the first letter that stands alone. -/
def firstLetter : Nat := 0x3131

/-- The code of the first vowel that stands alone. -/
def firstVowel : Nat := 0x314F

/-- The syllable of letters, or the letter that stands alone. -/
def joined? : (initial vowel final : Letter) → Option Char
  | .missing, .missing, .missing => some '\u3000'
  | .missing, .missing, .letter f => (finals[f]?).map fun n => Char.ofNat (firstLetter + n)
  | .missing, .letter v, .missing => some (Char.ofNat (firstVowel + v))
  | .letter i, .missing, .missing => (initials[i]?).map fun n => Char.ofNat (firstLetter + n)
  | .letter i, .letter v, .missing => some (syllable i v 0)
  | .letter i, .letter v, .letter f => some (syllable i v (f + 1))
  | _, _, _ => none

/-- The row and column of a pair that holds neither syllables nor letters. -/
def otherNumber? (a b : Nat) : Option Nat :=
  if a = 0xDF ∨ 0xF9 < a ∨ b < 0x31 ∨ (0x80 ≤ b ∧ b < 0x91) ∨ b % 0x80 = 0x7F
      ∨ (a = 0xDA ∧ 0xA1 ≤ b ∧ b ≤ 0xD3) then none
  else
    let double : Int := if a < 0xE0 then 2 * (a - 0xD9 : Int) else 2 * (a : Int) - 0x197
    let place := if b < 0x91 then b - 0x31 else b - 0x43
    let row := (double + place / 94 + 0x21).toNat
    some (pairNumber row (place % 94 + 0x21))

/-- The character of a pair, with five bits for each letter of a syllable. -/
def johab? (a b : Nat) : Option Char :=
  if a < 0xD8 then do
    let i ← initial? (a / 4 % 32)
    let v ← vowel? ((a * 8 + b / 32) % 32)
    let f ← final? (b % 32)
    joined? i v f
  else (otherNumber? a b).bind (Chart.char? Chart.ksX1001)

end Charset.Korean

end BranchingStory
