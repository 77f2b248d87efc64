import BranchingStory.Charset.Basic
import BranchingStory.Charset.Escapes
import BranchingStory.Charset.MultiByte
import BranchingStory.Charset.Switching
import BranchingStory.Charset.Utf7
import BranchingStory.Text.Punycode
import BranchingStory.Text.Utf32

/-!
# Decoders

A decoder takes the bytes of a text in pieces.  Everything malformed comes out as `none`,
so `Utf8.mend` gives the text with replacement characters, and `Charset.decode?` takes
well-formed text only.
-/

namespace BranchingStory

/-- A decoder: its charset, and what it holds back of the bytes it has taken. -/
inductive Decoder where
  | utf8 (s : Utf8.State)
  /-- It is not clear yet whether a byte order mark of UTF-8 stands in front. -/
  | beforeMark (kept : Bytes)
  | utf7 (s : Utf7.State)
  | utf16 (order : Option ByteOrder) (kept : Bytes)
  | utf32 (order : Option ByteOrder) (kept : Bytes)
  | page (p : Charset.Page)
  | escapes (short : Bool) (s : Escapes.State)
  | punycode
  | multiByte (m : Charset.MultiByte) (kept : Bytes)
  | braced (inside : Bool) (kept : Bytes)
  | switching (k : Charset.Switching) (s : Charset.Switching.State) (kept : Bytes)
  | refusing (r : Charset.Refusal)
  deriving Repr, DecidableEq

namespace Decoder

/-- The decoder of a charset, at the start of a text. -/
def ofCharset : Charset → Except Charset.Fault Decoder
  | .utf8 => .ok (utf8 .start)
  | .utf8Marked => .ok (beforeMark [])
  | .utf7 => .ok (utf7 .start)
  | .utf16 order => .ok (utf16 order [])
  | .utf32 order => .ok (utf32 order [])
  | .page p => .ok (page p)
  | .escapes short => .ok (escapes short .start)
  | .punycode => .ok punycode
  | .multiByte m => .ok (multiByte m [])
  | .braced => .ok (braced false [])
  | .switching k => .ok (switching k .start [])
  | .refusing .packing => .error (.refused .packing)
  | .refusing r => .ok (refusing r)

/-- The byte order mark in UTF-8. -/
def mark : Bytes := [0xEF, 0xBB, 0xBF]

/-- The order of bytes that the two bytes of a mark tell. -/
def orderOf2 (a b : UInt8) : Option ByteOrder :=
  if a = 0xFF ∧ b = 0xFE then some .little
  else if a = 0xFE ∧ b = 0xFF then some .big
  else none

/-- The order of bytes that the four bytes of a mark tell. -/
def orderOf4 (a b c d : UInt8) : Option ByteOrder :=
  if c = 0 ∧ d = 0 ∧ orderOf2 a b = some .little then some .little
  else if a = 0 ∧ b = 0 ∧ orderOf2 c d = some .big then some .big
  else none

/-- Takes bytes of UTF-16 in an order. -/
def feed16 (order : ByteOrder) (bs : Bytes) : Utf8.Output × Decoder :=
  let (out, kept) := Utf16.run (order = .big) bs
  (out, utf16 (some order) kept)

/-- Takes bytes of UTF-32 in an order. -/
def feed32 (order : ByteOrder) (bs : Bytes) : Utf8.Output × Decoder :=
  let (out, kept) := Utf32.run (order = .big) bs
  (out, utf32 (some order) kept)

/-- Takes the first bytes of UTF-16 behind which no order has been told.  A unit that waits
for the other half of its pair is not taken for text. -/
def feedUnordered16 (bs : Bytes) : Except Charset.Fault (Utf8.Output × Decoder) :=
  match bs with
  | a :: b :: rest =>
    match orderOf2 a b with
    | some order => .ok (feed16 order rest)
    | none =>
      if (Utf16.run false bs).2.length < bs.length then .error .unmarked
      else .ok ([], utf16 none bs)
  | few => .ok ([], utf16 none few)

/-- Takes the first bytes of UTF-32 behind which no order has been told. -/
def feedUnordered32 (bs : Bytes) : Except Charset.Fault (Utf8.Output × Decoder) :=
  match bs with
  | a :: b :: c :: d :: rest =>
    match orderOf4 a b c d with
    | some order => .ok (feed32 order rest)
    | none => .error .unmarked
  | few => .ok ([], utf32 none few)

/-- The character of a byte of ASCII. -/
def asciiChar (b : UInt8) : Char :=
  if b < 0x80 then Char.ofNat b.toNat else replacementChar

/-- The text of bytes of Punycode, of which every piece is a text of its own. -/
def readPunycode (bs : Bytes) : Except Charset.Fault Text :=
  let t := bs.map asciiChar
  if (Punycode.cutBasic t).2.contains replacementChar then .error .numberNotAscii
  else .ok (Punycode.decodePart t).1

/-- What more bytes give, and the decoder behind them. -/
def feed : Decoder → Bytes → Except Charset.Fault (Utf8.Output × Decoder)
  | utf8 s, bs =>
    let (out, s) := Utf8.run s bs
    .ok (out, utf8 s)
  | beforeMark kept, bs =>
    let all := kept ++ bs
    if all.length < 3 ∧ all.isPrefixOf mark then .ok ([], beforeMark all)
    else
      let (out, s) := Utf8.run .start (if mark.isPrefixOf all then all.drop 3 else all)
      .ok (out, utf8 s)
  | utf7 s, bs =>
    let (out, s) := Utf7.run s bs
    .ok (out, utf7 s)
  | utf16 none kept, bs => feedUnordered16 (kept ++ bs)
  | utf16 (some order) kept, bs => .ok (feed16 order (kept ++ bs))
  | utf32 none kept, bs => feedUnordered32 (kept ++ bs)
  | utf32 (some order) kept, bs => .ok (feed32 order (kept ++ bs))
  | page p, bs => .ok (p.run bs, page p)
  | escapes short s, bs =>
    let (out, s) := Escapes.run short s bs
    .ok (out, escapes short s)
  | punycode, bs => (readPunycode bs).map fun t => (t.map some, punycode)
  | multiByte m kept, bs =>
    (Charset.Front.feed m.front () kept bs).map fun r => (r.1, multiByte m r.2.2)
  | braced inside kept, bs =>
    (Charset.Front.feed Charset.Chinese.braced inside kept bs).map fun r =>
      (r.1, braced r.2.1 r.2.2)
  | switching k s kept, bs =>
    (Charset.Front.feed k.front s kept bs).map fun r => (r.1, switching k r.2.1 r.2.2)
  | refusing r, _ => .error (.refused r)

/-- What the end of the bytes gives. -/
def finish : Decoder → Except Charset.Fault Utf8.Output
  | utf8 s => .ok (Utf8.finish s)
  | beforeMark _ => .ok []
  | utf7 s => .ok (Utf7.finish s)
  | utf16 none (_ :: _ :: _) => .error .unmarked
  | utf16 _ kept => .ok (if kept.isEmpty then [] else [none])
  | utf32 _ kept => .ok (if kept.isEmpty then [] else [none])
  | page _ => .ok []
  | escapes short s => .ok (Escapes.finish short s)
  | punycode => .ok []
  | multiByte _ kept | braced _ kept | switching _ _ kept => .ok (Charset.Front.finish kept)
  | refusing r => .error (.refused r)

end Decoder

namespace Charset

/-- What all bytes of a text give. -/
def run (c : Charset) (bs : Bytes) : Except Fault Utf8.Output := do
  let (out, d) ← (← Decoder.ofCharset c).feed bs
  return out ++ (← d.finish)

/-- The charset of a whole text: without a mark, the low byte of a unit comes first. -/
def settled : Charset → Bytes → Charset
  | utf16 none, bs =>
    match bs with
    | a :: b :: _ => utf16 (if (Decoder.orderOf2 a b).isSome then none else some .little)
    | _ => utf16 (some .little)
  | utf32 none, bs =>
    match bs with
    | a :: b :: c :: d :: _ =>
      utf32 (if (Decoder.orderOf4 a b c d).isSome then none else some .little)
    | _ => utf32 (some .little)
  | c, _ => c

/-- The text of bytes that are well formed. -/
def decode? (c : Charset) (bs : Bytes) : Option Text :=
  match c with
  | punycode =>
    if bs.all (· < 0x80) then Punycode.decode? (bs.map Decoder.asciiChar) else none
  | c => (run (settled c bs) bs).toOption.bind (·.mapM id)

end Charset

end BranchingStory
