import BranchingStory.Charset.Chinese
import BranchingStory.Charset.Japanese
import BranchingStory.Charset.Korean

/-!
# Charsets with several bytes for a character

What stands in front of bytes in each of the charsets in which no byte changes what later
ones mean.  All but two of them keep ASCII as it is.
-/

namespace BranchingStory

namespace Charset.MultiByte

/-- Two bytes that write a character, if they do. -/
def pairOf (char? : (a b : Nat) → Option Char) : UInt8 → Bytes → Front Unit :=
  Front.pair fun a b => (char? a b).map ([·])

/-- What stands in front of bytes. -/
def front : MultiByte → Unit → UInt8 → Bytes → Front Unit
  | gb2312 => Front.asciiOr (pairOf Chinese.gb2312?)
  | gbk => Front.asciiOr (pairOf Chinese.gbk?)
  | gb18030 => Front.asciiOr Chinese.pairOrFour
  | big5 => Front.asciiOr (pairOf Chinese.big5?)
  | windowsBig5 => Front.asciiOr (pairOf Chinese.windowsBig5?)
  | hongKong => Front.asciiOr (Front.pair Chinese.hongKong?)
  | eucKorean => Front.asciiOr Korean.pairOrLetters
  | windowsKorean => Front.asciiOr (pairOf Korean.windowsKorean?)
  | johab => Front.asciiOr (pairOf Korean.johab?)
  | shiftJis => Front.asciiOr (Japanese.narrowOrShifted (Front.pair Japanese.shiftJis?))
  | windowsJapanese => Front.asciiOr Japanese.windowsFront
  | eucJapanese => Front.asciiOr Japanese.eucFront
  | shiftJisExtended e => Japanese.shiftedExtended e
  | eucExtended e => Front.asciiOr (Japanese.eucExtendedFront e)

end Charset.MultiByte

end BranchingStory
