import BranchingStory.Text.Utf16
import BranchingStory.Text.Utf32

/-!
# Encodings of JSON

JSON that arrives as bytes may be in UTF-8, UTF-16 or UTF-32.  Its first two characters are
ASCII, so the null bytes among the first four tell which.
-/

namespace BranchingStory

namespace Json

/-- An encoding of JSON. -/
inductive Encoding where
  | utf8
  | utf16 (big : Bool)
  | utf32 (big : Bool)
  deriving Repr, DecidableEq

namespace Encoding

/-- The encoding of some bytes. -/
def detect : Bytes → Encoding
  | a :: b :: c :: d :: _ =>
    if a = 0 then if b = 0 then utf32 true else utf16 true
    else if b = 0 then if c = 0 ∧ d = 0 then utf32 false else utf16 false
    else utf8
  | [a, b] => if a = 0 then utf16 true else if b = 0 then utf16 false else utf8
  | _ => utf8

/-- A text without the byte order mark in front. -/
def dropMark : Text → Text
  | [] => []
  | c :: t => if c.toNat = 0xFEFF then t else c :: t

/-- The text of some bytes, which are refused when they do not hold whole characters.  Half
a surrogate pair passes as a character that is not known. -/
def decode? : Encoding → Bytes → Option Text
  | utf8, bs => (Utf8.decode? bs).map dropMark
  | utf16 big, bs =>
    let (out, kept) := Utf16.run big bs
    if kept.length % 2 = 1 then none
    else some (Utf8.mend (if kept.isEmpty then out else out ++ [none]))
  | utf32 big, bs =>
    let (out, kept) := Utf32.run big bs
    if kept.isEmpty then out.mapM id else none

end Encoding

/-- The text of bytes that hold JSON. -/
def textOfBytes? (bs : Bytes) : Option Text :=
  (Encoding.detect bs).decode? bs

end Json

end BranchingStory
