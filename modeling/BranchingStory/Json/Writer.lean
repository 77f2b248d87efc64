import BranchingStory.Json.Basic
import BranchingStory.Number.Shortest
import BranchingStory.Text.Quoted

/-!
# Writing JSON

A `Json.Layout` says where gaps stand and which characters are escaped;
`Json.write` writes a value in a layout.  Members and items stand in their order.
Binary64 numbers are written with the fewest digits that read back, and a `NumberStyle`
says where their point stands.
-/

namespace BranchingStory

namespace Json

/-- How binary64 numbers are written: where the point stands, and whether null stands for
numbers that are not finite. -/
structure NumberStyle where
  point : PointStyle
  nullForNonFinite : Bool

namespace NumberStyle

/-- A number has a point and no exponent when it has from minus three to sixteen digits
before the point, and an exponent of at least two digits with a sign otherwise. -/
def usual : NumberStyle := ⟨⟨-3, 16, 2, true⟩, false⟩

/-- A number has a point and no exponent when it has from minus four to sixteen digits
before the point, and an exponent without a plus sign otherwise. -/
def terse : NumberStyle := ⟨⟨-4, 16, 1, false⟩, true⟩

end NumberStyle

/-- How a value is laid out: `indent` is the number of spaces of one level when every
item has a line of its own, `itemGap` and `nameGap` stand after commas and colons,
`asciiOnly` escapes everything outside the printable characters of ASCII, and `numbers` is
the style of binary64 numbers. -/
structure Layout where
  indent : Option Nat
  itemGap : Text
  nameGap : Text
  asciiOnly : Bool
  numbers : NumberStyle

namespace Layout

/-- One line without gaps. -/
def compact : Layout := ⟨none, [], [], false, .terse⟩

/-- A line for every item, two spaces a level. -/
def indented : Layout := ⟨some 2, [], [' '], false, .terse⟩

/-- A line for every item, two spaces a level, in ASCII. -/
def indentedAscii : Layout := ⟨some 2, [], [' '], true, .usual⟩

/-- One line in ASCII with a space after commas and colons, as a header holds it. -/
def header : Layout := ⟨none, [' '], [' '], true, .usual⟩

/-- The start of a line at a level, when items have lines of their own. -/
def lineBreak (l : Layout) (level : Nat) : Text :=
  match l.indent with
  | none => []
  | some n => '\n' :: List.replicate (n * level) ' '

end Layout

/-- The text of a number that is not finite. -/
def nonFiniteText : Binary64 → Text
  | .infinite negative => if negative then "-Infinity" else "Infinity"
  | _ => "NaN"

/-- The text of a binary64 number. -/
def floatText (s : NumberStyle) : Binary64 → Text
  | .finite negative m e =>
    let (d, p) := Shortest.digits m e
    (if negative then ['-'] else []) ++ s.point.render d p
  | x => if s.nullForNonFinite then "null" else nonFiniteText x

/-- The escape of a code below 65536. -/
def unicodeEscape (n : Nat) : Text :=
  '\\' :: 'u' :: hexText 4 n

/-- One character of a string. -/
def stringChar (asciiOnly : Bool) (c : Char) : Text :=
  if c = '"' then ['\\', '"']
  else if c = '\\' then ['\\', '\\']
  else if c = '\n' then ['\\', 'n']
  else if c = '\r' then ['\\', 'r']
  else if c = '\t' then ['\\', 't']
  else if c.toNat = 8 then ['\\', 'b']
  else if c.toNat = 12 then ['\\', 'f']
  else if c.toNat < 32 then unicodeEscape c.toNat
  else if !asciiOnly || c.toNat < 127 then [c]
  else if c.toNat < 65536 then unicodeEscape c.toNat
  else
    let n := c.toNat - 65536
    unicodeEscape (0xD800 + n / 1024) ++ unicodeEscape (0xDC00 + n % 1024)

/-- A string with its quotes; a half has no character of its own, so it is always escaped. -/
def stringText (asciiOnly : Bool) (s : Str) : Text :=
  ['"'] ++ s.render (stringChar asciiOnly) (fun h => unicodeEscape h.code) ++ ['"']

mutual

/-- A value at a level of a layout. -/
def writeAt (l : Layout) (level : Nat) : Json → Text
  | null => "null"
  | bool b => if b then "true" else "false"
  | int n => decimalText n
  | float x => floatText l.numbers x
  | str s => stringText l.asciiOnly s
  | arr [] => "[]"
  | arr (v :: vs) =>
    ['['] ++ l.lineBreak (level + 1) ++ writeAt l (level + 1) v ++ writeItems l (level + 1) vs
      ++ l.lineBreak level ++ [']']
  | obj [] => "\x7b\x7d"
  | obj ((k, v) :: ms) =>
    ['\x7b'] ++ l.lineBreak (level + 1) ++ stringText l.asciiOnly k ++ [':'] ++ l.nameGap
      ++ writeAt l (level + 1) v ++ writeMembers l (level + 1) ms ++ l.lineBreak level ++ ['\x7d']

/-- The items after the first, each behind a comma. -/
def writeItems (l : Layout) (level : Nat) : List Json → Text
  | [] => []
  | v :: vs =>
    [','] ++ l.itemGap ++ l.lineBreak level ++ writeAt l level v ++ writeItems l level vs

/-- The members after the first, each behind a comma. -/
def writeMembers (l : Layout) (level : Nat) : List (Str × Json) → Text
  | [] => []
  | (k, v) :: ms =>
    [','] ++ l.itemGap ++ l.lineBreak level ++ stringText l.asciiOnly k ++ [':'] ++ l.nameGap
      ++ writeAt l level v ++ writeMembers l level ms

end

/-- The text of a value in a layout. -/
def write (l : Layout) (v : Json) : Text :=
  writeAt l 0 v

end Json

end BranchingStory
