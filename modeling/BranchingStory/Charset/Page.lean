import BranchingStory.Text.Utf8

/-!
# Pages

A page is a charset that has one byte for every character.  It is written as its chart:
rows of sixteen characters in the order of the bytes.
-/

namespace BranchingStory

namespace Charset

/-- The chart of a page; the replacement character stands where a byte has no character,
and so does the lack of a row. -/
structure Page where
  rows : List String
  deriving Repr, DecidableEq

namespace Page

/-- The rows of ASCII, which are the lower half of most charts. -/
def asciiRows : List String :=
  ["\x00\x01\x02\x03\x04\x05\x06\x07\x08\x09\x0a\x0b\x0c\x0d\x0e\x0f",
   "\x10\x11\x12\x13\x14\x15\x16\x17\x18\x19\x1a\x1b\x1c\x1d\x1e\x1f",
   " !\x22#$%&'()*+,-./", "0123456789:;<=>?", "@ABCDEFGHIJKLMNO", "PQRSTUVWXYZ[\x5c]^_",
   "\x60abcdefghijklmno", "pqrstuvwxyz\x7b|\x7d~\x7f"]

/-- The page of ASCII and the rows of an upper half. -/
def overAscii (upper : List String) : Page where
  rows := asciiRows ++ upper

/-- The page of ASCII. -/
def ascii : Page :=
  .overAscii []

/-- The character of a byte. -/
def char? (p : Page) (b : UInt8) : Option Char := do
  let row ← p.rows[b.toNat / 16]?
  let c ← row.toList[b.toNat % 16]?
  if c = replacementChar then none else some c

/-- The characters of some bytes. -/
def run (p : Page) (bs : Bytes) : Utf8.Output :=
  bs.map p.char?

end Page

end Charset

end BranchingStory
