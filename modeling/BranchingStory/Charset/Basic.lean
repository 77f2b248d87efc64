import BranchingStory.Charset.Page

/-!
# Charsets

The ways to tell a text in bytes.  Some names that are asked for like charsets stand for
something else, which cannot be decoded; what becomes of them is their refusal.
-/

namespace BranchingStory

/-- The order of the bytes of a unit. -/
inductive ByteOrder where
  | little
  | big
  deriving Repr, DecidableEq

namespace Charset

/-- Why nothing is decoded although a name is known. -/
inductive Refusal where
  /-- Only well-formed text is decoded, and malformed text is to be mended. -/
  | neverMended
  /-- The name stands for a way to tell bytes in bytes. -/
  | bytesInBytes
  /-- The name stands for a way to pack bytes, which is refused before any byte comes. -/
  | packing
  /-- The name stands for a way to tell text in text. -/
  | textInText
  deriving Repr, DecidableEq

/-- An edition of the extended Japanese standard. -/
inductive Edition where
  | first
  | second
  deriving Repr, DecidableEq

/-- The charsets with one or more bytes for a character, where no byte changes what later
ones mean. -/
inductive MultiByte where
  | gb2312
  | gbk
  | gb18030
  | big5
  | windowsBig5
  | hongKong
  | eucKorean
  | windowsKorean
  | johab
  | shiftJis
  | windowsJapanese
  | eucJapanese
  | shiftJisExtended (e : Edition)
  | eucExtended (e : Edition)
  deriving Repr, DecidableEq

/-- The charsets in which escape sequences say what later bytes mean. -/
inductive Switching where
  | korean
  | japanese
  | japanese1
  | japanese2
  | japanese3
  | japanese2004
  | japaneseExtended
  deriving Repr, DecidableEq

end Charset

/-- A charset.  The order of bytes that is missing is told by a mark in front. -/
inductive Charset where
  | utf8
  /-- UTF-8 with a byte order mark that may stand in front. -/
  | utf8Marked
  | utf7
  | utf16 (order : Option ByteOrder)
  | utf32 (order : Option ByteOrder)
  | page (p : Charset.Page)
  /-- The first 256 characters, and escapes behind backslashes for the others; `short` is
  whether other escapes are known than those of numbers in hexadecimal digits. -/
  | escapes (short : Bool)
  | punycode
  | multiByte (m : Charset.MultiByte)
  /-- GB 2312 between tildes and braces. -/
  | braced
  | switching (k : Charset.Switching)
  | refusing (r : Charset.Refusal)
  deriving Repr, DecidableEq

namespace Charset

/-- Why bytes cannot be decoded. -/
inductive Fault where
  /-- No mark tells the order of the bytes. -/
  | unmarked
  /-- A number is not in ASCII. -/
  | numberNotAscii
  /-- A charset is asked for that has not been set. -/
  | unset
  /-- More bytes wait for others than may. -/
  | tooManyWait
  | refused (r : Refusal)
  deriving Repr, DecidableEq

end Charset

end BranchingStory
