import BranchingStory.Charset.Chart.JisX0208
import BranchingStory.Charset.Chart.JisX0212
import BranchingStory.Charset.Chart.JisX0213
import BranchingStory.Charset.Front

/-!
# Japanese charsets

The rows and columns of JIS X 0208 and its extensions stand in two bytes with the high bit
set, or are shifted so that bytes are left for the narrow letters of one of the two
syllabaries.
-/

namespace BranchingStory

namespace Charset.Japanese

/-- The narrow letter of a byte. -/
def narrow? (a : Nat) : Option Char :=
  if 0xA1 ≤ a ∧ a ≤ 0xDF then some (Char.ofNat (0xFEC0 + a)) else none

/-- The character of JIS X 0208 at a row and column. -/
def jisX0208? (n : Nat) : Option Char :=
  Chart.char? Chart.jisX0208 n

/-- The character of JIS X 0212 at a row and column. -/
def jisX0212? (n : Nat) : Option Char :=
  Chart.char? Chart.jisX0212 n

/-! ## The extended standard -/

/-- The letters that are told with a mark behind them. -/
def markedLetters : List (Nat × String) :=
  [(0x2477, "か\u309a"), (0x2478, "き\u309a"), (0x2479, "く\u309a"), (0x247A, "け\u309a"),
   (0x247B, "こ\u309a"), (0x2577, "カ\u309a"), (0x2578, "キ\u309a"), (0x2579, "ク\u309a"),
   (0x257A, "ケ\u309a"), (0x257B, "コ\u309a"), (0x257C, "セ\u309a"), (0x257D, "ツ\u309a"),
   (0x257E, "ト\u309a"), (0x2678, "ㇷ\u309a"), (0x2B44, "æ\u0300"), (0x2B48, "ɔ\u0300"),
   (0x2B49, "ɔ\u0301"), (0x2B4A, "ʌ\u0300"), (0x2B4B, "ʌ\u0301"), (0x2B4C, "ə\u0300"),
   (0x2B4D, "ə\u0301"), (0x2B4E, "ɚ\u0300"), (0x2B4F, "ɚ\u0301"), (0x2B65, "˩˥"), (0x2B66, "˥˩")]

/-- The rows and columns of the characters that the second edition added. -/
def addedBySecond : List Nat :=
  [0x2E21, 0x2F7E, 0x4F54, 0x4F7E, 0x7427, 0x7E7A, 0x7E7B, 0x7E7C, 0x7E7D, 0x7E7E]

/-- Whether a row and column is not used yet in an edition. -/
def isUnused (e : Edition) (n : Nat) : Bool :=
  e = .first && addedBySecond.contains n

/-- The text of the first plane at a row and column. -/
def firstPlane? (e : Edition) (n : Nat) : Option Text :=
  if isUnused e n then none
  else
    (((jisX0208? n).or (Chart.char? Chart.jisX0213First n)).map ([·])).or
      ((markedLetters.lookup n).map String.toList)

/-- The text of the second plane at a row and column, of which the second edition changed
one. -/
def secondPlane? (e : Edition) (n : Nat) : Option Text :=
  if e = .first ∧ n = 0x7D3B then some ['\u9B1D']
  else (Chart.char? Chart.jisX0213Second n).map ([·])

/-! ## Shifted rows -/

/-- The row, from zero on, and the column of a shifted pair, where the first byte may be one
of 81 to 9F and E0 to FC. -/
def shifted? (a b : Nat) : Option (Nat × Nat) :=
  if b < 0x40 ∨ b = 0x7F ∨ 0xFC < b then none
  else
    let double := 2 * (if a < 0xE0 then a - 0x81 else a - 0xC1)
    let place := if b < 0x80 then b - 0x40 else b - 0x41
    some (double + place / 94, place % 94 + 0x21)

/-- The row and column of a shifted pair as one number. -/
def shiftedNumber? (a b : Nat) : Option Nat :=
  (shifted? a b).map fun p => pairNumber (p.1 + 0x21) p.2

/-- Whether a byte begins a shifted pair. -/
def beginsShifted (a : UInt8) : Bool :=
  (0x81 ≤ a && a ≤ 0x9F) || (0xE0 ≤ a && a ≤ 0xFC)

/-- A narrow letter, or a shifted pair. -/
def narrowOrShifted (pair : UInt8 → Bytes → Front Unit) (a : UInt8) (rest : Bytes) :
    Front Unit :=
  match narrow? a.toNat with
  | some c => .text 0 [c] ()
  | none => if beginsShifted a then pair a rest else .malformed 0

/-- The text of a shifted pair. -/
def shiftJis? (a b : Nat) : Option Text :=
  ((shiftedNumber? a b).bind jisX0208?).map ([·])

/-- The character of a shifted pair, or one of those that Windows added or changed. -/
def windowsJapanese? (a b : Nat) : Option Char :=
  match Chart.char? Chart.windowsJapanese (pairNumber a b) with
  | some c => some c
  | none =>
    if (0x81 ≤ a ∧ a ≤ 0x9F) ∨ (0xE0 ≤ a ∧ a ≤ 0xEA) then
      (shiftedNumber? a b).bind jisX0208?
    else if 0xF0 ≤ a ∧ a ≤ 0xF9 then
      (shifted? a b).map fun p => Char.ofNat (0xE000 + (p.1 - 94) * 94 + (p.2 - 0x21))
    else none

/-- What stands in front of text of Windows, which has characters for private use for the
bytes that begin nothing. -/
def windowsFront (a : UInt8) (rest : Bytes) : Front Unit :=
  if a = 0x80 then .text 0 ['\x80'] ()
  else if a = 0xA0 then .text 0 ['\uF8F0'] ()
  else if 0xFD ≤ a then .text 0 [Char.ofNat (0xF8F1 + (a.toNat - 0xFD))] ()
  else
    match narrow? a.toNat with
    | some c => .text 0 [c] ()
    | none => Front.pair (fun a b => (windowsJapanese? a b).map ([·])) a rest

/-- The row of the second plane for a shifted row beyond the first plane. -/
def secondRow (row : Nat) : Nat :=
  if 0x67 ≤ row then row + 0x07
  else if 0x63 ≤ row ∨ row = 0x5F then row - 0x37
  else row - 0x3D

/-- The row and column of the first plane of a shifted pair, if it is not one of the
second. -/
def firstNumber? (a b : Nat) : Option Nat :=
  (shifted? a b).bind fun p => if p.1 < 94 then some (pairNumber (p.1 + 0x21) p.2) else none

/-- The text of a shifted pair in the extended standard, whose reverse solidus is not
wide. -/
def shiftJisExtended? (e : Edition) (a b : Nat) : Option Text :=
  (shifted? a b).bind fun p =>
    if p.1 < 94 then
      let n := pairNumber (p.1 + 0x21) p.2
      if n = 0x2140 then some ['\\'] else firstPlane? e n
    else secondPlane? e (pairNumber (secondRow p.1) p.2)

/-- Two bytes of which neither is taken for another start when they are not used yet. -/
def pairUnless (unused : (a b : Nat) → Bool) (text? : (a b : Nat) → Option Text) (a : UInt8)
    (rest : Bytes) : Front Unit :=
  match rest with
  | b :: _ =>
    if unused a.toNat b.toNat then .malformed 1 else Front.pair text? a rest
  | [] => .unfinished

/-- What stands in front of shifted text in the extended standard, where two signs of ASCII
are others. -/
def shiftedExtended (e : Edition) (_ : Unit) (a : UInt8) (rest : Bytes) : Front Unit :=
  if a = 0x5C then .text 0 ['\u00A5'] ()
  else if a = 0x7E then .text 0 ['\u203E'] ()
  else
    Front.asciiOr
      (narrowOrShifted
        (pairUnless (fun a b => (firstNumber? a b).any (isUnused e)) (shiftJisExtended? e)))
      () a rest

/-! ## High bits -/

/-- A narrow letter behind its byte, a text of three bytes behind its own, or a pair. -/
def highFront (third? : Nat → Option Text) (pair : UInt8 → Bytes → Front Unit) (a : UInt8)
    (rest : Bytes) : Front Unit :=
  if a = 0x8E then
    match rest with
    | [] => .unfinished
    | b :: _ =>
      match narrow? b.toNat with
      | some c => .text 1 [c] ()
      | none => .malformed 0
  else if a = 0x8F then
    match rest with
    | b :: c :: _ =>
      if b < 0x80 ∨ c < 0x80 then .malformed 0
      else
        match third? (pairNumber (b.toNat - 0x80) (c.toNat - 0x80)) with
        | some t => .text 2 t ()
        | none => .malformed 0
    | _ => .unfinished
  else pair a rest

/-- The row and column of a pair with high bits. -/
def highNumber? (a b : Nat) : Option Nat :=
  if b < 0x80 then none else some (pairNumber (a - 0x80) (b - 0x80))

/-- What stands in front of text with high bits. -/
def eucFront : UInt8 → Bytes → Front Unit :=
  highFront (fun n => (jisX0212? n).map ([·]))
    (Front.pair fun a b => ((highNumber? a b).bind jisX0208?).map ([·]))

/-- What stands in front of text with high bits in the extended standard, whose tilde is
wide. -/
def eucExtendedFront (e : Edition) : UInt8 → Bytes → Front Unit :=
  highFront (fun n => (secondPlane? e n).or ((jisX0212? n).map ([·])))
    (pairUnless (fun a b => (highNumber? a b).any (isUnused e)) fun a b =>
      (highNumber? a b).bind fun n => if n = 0x2232 then some ['\uFF5E'] else firstPlane? e n)

end Charset.Japanese

end BranchingStory
