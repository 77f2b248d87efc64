import BranchingStory.Text.Basic

/-!
# UTF-8

UTF-8 as a machine that takes one byte at a time.  A byte that cannot go on with the
character begun ends that character as malformed and begins anew; so does the end of the
text.  `Utf8.decode?` takes only well-formed text, `Utf8.feed` puts the replacement
character for everything malformed.
-/

namespace BranchingStory

/-- Bytes, one after another. -/
abbrev Bytes := List UInt8

/-- The character that stands for what is malformed. -/
def replacementChar : Char := Char.ofNat 0xFFFD

namespace Utf8

/-- Where the machine stands: between characters; inside one with `owed + 1` bytes to
come, of which the next lies between `low` and `high`, and `value` the bits so far; or
behind two bytes that begin a surrogate, which are malformed one by one but not told of
before more follows. -/
inductive State where
  | start
  | inside (owed low high value : Nat)
  | surrogate
  deriving Repr, DecidableEq

/-- What comes out: a character, or something malformed. -/
abbrev Output := List (Option Char)

/-- The first byte of a character. -/
def first (b : Nat) : Output × State :=
  if b ≤ 0x7F then ([some (Char.ofNat b)], .start)
  else if 0xC2 ≤ b ∧ b ≤ 0xDF then ([], .inside 0 0x80 0xBF (b - 0xC0))
  else if b = 0xE0 then ([], .inside 1 0xA0 0xBF 0)
  else if b = 0xED then ([], .inside 1 0x80 0x9F 0xD)
  else if 0xE1 ≤ b ∧ b ≤ 0xEF then ([], .inside 1 0x80 0xBF (b - 0xE0))
  else if b = 0xF0 then ([], .inside 2 0x90 0xBF 0)
  else if 0xF1 ≤ b ∧ b ≤ 0xF3 then ([], .inside 2 0x80 0xBF (b - 0xF0))
  else if b = 0xF4 then ([], .inside 2 0x80 0x8F 4)
  else ([none], .start)

/-- One byte. -/
def step : State → Nat → Output × State
  | .start, b => first b
  | .inside owed low high value, b =>
    if low ≤ b ∧ b ≤ high then
      let value := value * 64 + (b - 0x80)
      match owed with
      | 0 => ([some (Char.ofNat value)], .start)
      | owed + 1 => ([], .inside owed 0x80 0xBF value)
    else if high = 0x9F ∧ 0xA0 ≤ b ∧ b ≤ 0xBF then ([], .surrogate)
    else
      let (out, s) := first b
      (none :: out, s)
  | .surrogate, b =>
    let (out, s) := first b
    (none :: none :: out, s)

/-- The end of the text. -/
def finish : State → Output
  | .start => []
  | .inside _ _ _ _ => [none]
  | .surrogate => [none, none]

/-- Several bytes. -/
def run : State → Bytes → Output × State
  | s, [] => ([], s)
  | s, b :: bs =>
    let (out, s) := step s b.toNat
    let (more, s) := run s bs
    (out ++ more, s)

/-- A text with the replacement character for everything malformed. -/
def mend (out : Output) : Text :=
  out.map (·.getD replacementChar)

/-- The text of several bytes, and where the machine stands afterwards. -/
def feed (s : State) (bs : Bytes) : Text × State :=
  let (out, s) := run s bs
  (mend out, s)

/-- The text of bytes that are well formed. -/
def decode? (bs : Bytes) : Option Text :=
  let (out, s) := run .start bs
  (out ++ finish s).mapM id

/-- The bytes of a character. -/
def encodeChar (c : Char) : Bytes :=
  let n := c.toNat
  let tail (place : Nat) : UInt8 := UInt8.ofNat (0x80 + n / place % 64)
  if n ≤ 0x7F then [UInt8.ofNat n]
  else if n ≤ 0x7FF then [UInt8.ofNat (0xC0 + n / 64), tail 1]
  else if n ≤ 0xFFFF then [UInt8.ofNat (0xE0 + n / 4096), tail 64, tail 1]
  else [UInt8.ofNat (0xF0 + n / 262144), tail 4096, tail 64, tail 1]

/-- The bytes of a text. -/
def encode (t : Text) : Bytes :=
  t.flatMap encodeChar

end Utf8

end BranchingStory
