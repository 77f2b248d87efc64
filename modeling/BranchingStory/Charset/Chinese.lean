import BranchingStory.Charset.Chart.Big5
import BranchingStory.Charset.Chart.Gb2312
import BranchingStory.Charset.Chart.HongKong
import BranchingStory.Charset.Front

/-!
# Chinese charsets

GB 2312 puts rows and columns into two bytes with the high bit set.  What came after it
fills the other pairs: with the ideographs that are not in GB 2312, in the order of their
codes, with areas for private use, and at last four bytes write every other character.
Big5 and its supplements are charts of pairs of bytes.
-/

namespace BranchingStory

namespace Charset.Chinese

/-- The code of the first ideograph. -/
def firstIdeograph : Nat := 0x4E00

/-- The number of ideographs. -/
def ideographCount : Nat := 20902

/-- The ideographs that are not in GB 2312, in the order of their codes. -/
def otherIdeographs : Array Nat :=
  (Chart.Marks.none.addChart Chart.gb2312).othersIn firstIdeograph ideographCount

/-- The place of a second byte, which may be any from 40 to FE except 7F. -/
def column? (b : Nat) : Option Nat :=
  if 0x40 ≤ b ∧ b < 0x7F then some (b - 0x40)
  else if 0x80 ≤ b ∧ b ≤ 0xFE then some (b - 0x41)
  else none

/-- The number of second bytes. -/
def columns : Nat := 190

/-- The number of second bytes below A1. -/
def lowColumns : Nat := 96

/-- The place of a pair among those that hold the other ideographs. -/
def otherPlace? (a b : Nat) : Option Nat := do
  let column ← column? b
  if 0x81 ≤ a ∧ a ≤ 0xA0 then some ((a - 0x81) * columns + column)
  else if 0xAA ≤ a ∧ a ≤ 0xFE ∧ column < lowColumns then
    some (32 * columns + (a - 0xAA) * lowColumns + column)
  else none

/-- The character of a pair in GB 2312. -/
def gb2312? (a b : Nat) : Option Char :=
  highPair? (Chart.char? Chart.gb2312) a b

/-- The character of a pair with the signs and ideographs that were added first. -/
def gbk? (a b : Nat) : Option Char :=
  ((Chart.char? Chart.gbkSigns (pairNumber a b)).or (gb2312? a b)).or
    (((otherPlace? a b).bind (otherIdeographs[·]?)).map Char.ofNat)

/-- The code of a pair in the areas for private use. -/
def privateCode? (a b : Nat) : Option Nat :=
  if 0xAA ≤ a ∧ a ≤ 0xAF ∧ 0xA1 ≤ b ∧ b ≤ 0xFE then
    some (0xE000 + (a - 0xAA) * 94 + (b - 0xA1))
  else if 0xF8 ≤ a ∧ a ≤ 0xFE ∧ 0xA1 ≤ b ∧ b ≤ 0xFE then
    some (0xE234 + (a - 0xF8) * 94 + (b - 0xA1))
  else if 0xA1 ≤ a ∧ a ≤ 0xA7 ∧ b ≤ 0xA0 then
    (column? b).map fun column => 0xE4C6 + (a - 0xA1) * lowColumns + column
  else none

/-- The character of a pair with all that was added. -/
def gb18030? (a b : Nat) : Option Char :=
  ((gbk? a b).or (Chart.char? Chart.gb18030Signs (pairNumber a b))).or
    ((privateCode? a b).map Char.ofNat)

/-- The code of the dot of GB 2312 that another dot has replaced. -/
def replacedDot : Nat := 0x30FB

/-- The codes from U+0080 to U+FFFF that no pair writes, without the halves of surrogate
pairs. -/
def withoutPair : Array Nat :=
  let marks := (Chart.Marks.none.addChart Chart.gb2312).setIfInBounds replacedDot false
  let marks := (Chart.Marks.addChart marks Chart.gbkSigns).addChart Chart.gb18030Signs
  let marks := (marks.add (List.range' firstIdeograph ideographCount)).add
    (List.range' 0xE000 0x766)
  marks.othersIn 0x80 0xD780 ++ marks.othersIn 0xE000 0x2000

/-- The character of four bytes. -/
def four? (a b c d : Nat) : Option Char :=
  if a < 0x81 ∨ 0xFE < a ∨ c < 0x81 ∨ 0xFE < c ∨ d < 0x30 ∨ 0x39 < d then none
  else
    let place (a : Nat) := ((a * 10 + (b - 0x30)) * 126 + (c - 0x81)) * 10 + (d - 0x30)
    if a < 0x85 then (withoutPair[place (a - 0x81)]?).map Char.ofNat
    else if 0x90 ≤ a then
      let code := 0x10000 + place (a - 0x90)
      if code ≤ 0x10FFFF then some (Char.ofNat code) else none
    else none

/-- Two bytes, or four if the second one is a digit. -/
def pairOrFour (a : UInt8) (rest : Bytes) : Front Unit :=
  match rest with
  | [] => .unfinished
  | b :: rest' =>
    if 0x30 ≤ b ∧ b ≤ 0x39 then
      match rest' with
      | c :: d :: _ =>
        match four? a.toNat b.toNat c.toNat d.toNat with
        | some char => .text 3 [char] ()
        | none => .malformed 0
      | _ => .unfinished
    else Front.pair (fun a b => (gb18030? a b).map ([·])) a rest

/-! ## Big5 -/

/-- The character of a pair in Big5. -/
def big5? (a b : Nat) : Option Char :=
  Chart.char? Chart.big5 (pairNumber a b)

/-- The character of a pair in the Big5 of Windows. -/
def windowsBig5? (a b : Nat) : Option Char :=
  (Chart.char? Chart.windowsBig5 (pairNumber a b)).or (big5? a b)

/-- The pairs that write a letter and a mark above it. -/
def markedLetters : List (Nat × Text) :=
  [(0x8862, "\u00CA\u0304"), (0x8864, "\u00CA\u030C"), (0x88A3, "\u00EA\u0304"),
   (0x88A5, "\u00EA\u030C")]

/-- The text of a pair in Big5 with the supplement of Hong Kong, which replaces the pairs
from C6A1 to C8FE. -/
def hongKong? (a b : Nat) : Option Text :=
  let n := pairNumber a b
  let plain := if 0xC6A1 ≤ n ∧ n ≤ 0xC8FF then none else big5? a b
  ((plain.or (Chart.char? Chart.hongKong n)).map ([·])).or (markedLetters.lookup n)

/-! ## GB 2312 between braces -/

/-- What stands in front of text in ASCII in which a tilde and an opening brace begin a
stretch of GB 2312, which a tilde and a closing brace end; the state is whether there is
one. -/
def braced (inside : Bool) (a : UInt8) (rest : Bytes) : Front Bool :=
  if a = 0x7E then
    match rest with
    | [] => .unfinished
    | b :: _ =>
      if b = 0x7E ∧ !inside then .text 1 ['~'] false
      else if b = 0x7B ∧ !inside then .text 1 [] true
      else if b = 0x0A ∧ !inside then .text 1 [] false
      else if b = 0x7D ∧ inside then .text 1 [] false
      else .malformed 0
  else if 0x80 ≤ a then .malformed 0
  else if !inside then .text 0 [Char.ofNat a.toNat] false
  else
    match rest with
    | [] => .unfinished
    | b :: _ =>
      match Chart.char? Chart.gb2312 (pairNumber a.toNat b.toNat) with
      | some c => .text 1 [c] true
      | none => .malformed 0

end Charset.Chinese

end BranchingStory
