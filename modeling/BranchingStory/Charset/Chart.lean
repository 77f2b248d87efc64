import BranchingStory.Text.Utf8

/-!
# Charts

A chart gives characters to numbers, such as a row and a column or two bytes as one
number.  It is written in stretches, most of which lie within a row.
-/

namespace BranchingStory

namespace Charset

/-- A stretch of a chart. -/
inductive Stretch where
  /-- The characters of a text from a number on; the replacement character stands where
  there is none. -/
  | text (first : Nat) (chars : String)
  /-- So many characters from a number on, whose codes rise from the least one. -/
  | rising (first count least : Nat)
  deriving Repr, DecidableEq

namespace Stretch

/-- The most characters of a text of a stretch. -/
def most : Nat := 47

/-- The character of a number. -/
def char? : Stretch → Nat → Option Char
  | text first chars, n =>
    if first ≤ n ∧ n < first + most then chars.toList[n - first]? else none
  | rising first count least, n =>
    if first ≤ n ∧ n < first + count then some (Char.ofNat (least + (n - first))) else none

/-- The codes of the characters of a stretch. -/
def codes : Stretch → List Nat
  | text _ chars => chars.toList.map Char.toNat
  | rising _ count least => List.range' least count

end Stretch

/-- A chart. -/
abbrev Chart := List Stretch

namespace Chart

/-- The character of a number. -/
def char? (c : Chart) (n : Nat) : Option Char :=
  (c.findSome? (·.char? n)).filter (· ≠ replacementChar)

/-- A set of codes up to U+FFFF, as whether each of them is in it. -/
abbrev Marks := Array Bool

/-- No code. -/
def Marks.none : Marks :=
  Array.replicate 0x10000 false

/-- Some more codes. -/
def Marks.add (m : Marks) (codes : List Nat) : Marks :=
  codes.foldl (fun m n => m.setIfInBounds n true) m

/-- The codes of a chart as well. -/
def Marks.addChart (m : Marks) (c : Chart) : Marks :=
  c.foldl (fun m s => m.add s.codes) m

/-- The codes of a range that are not in the set. -/
def Marks.othersIn (m : Marks) (first count : Nat) : Array Nat :=
  (List.range' first count).toArray.filter fun n => !m.getD n false

end Chart

end Charset

end BranchingStory
