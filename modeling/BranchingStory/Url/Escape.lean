import BranchingStory.Text.Utf8

/-!
# Escapes in URLs

A character without a place in some part of a URL is written as the bytes of UTF-8, each a
percent sign and two digits.  Percent signs stay as they are, so what is escaped already is
not escaped again.
-/

namespace BranchingStory

namespace Url

/-- A digit of an escape. -/
def escapeDigit (n : Nat) : Char :=
  Char.ofNat (if n < 10 then 48 + n else 55 + n)

/-- The escape of a byte. -/
def escapeByte (b : UInt8) : Text :=
  ['%', escapeDigit (b.toNat / 16), escapeDigit (b.toNat % 16)]

/-- A text with escapes for all characters but those that are visible, ASCII and not
`barred`. -/
def escape (barred : Text) (t : Text) : Text :=
  t.flatMap fun c =>
    if 0x21 ≤ c.toNat ∧ c.toNat ≤ 0x7E ∧ !barred.contains c then [c]
    else (Utf8.encodeChar c).flatMap escapeByte

/-- The characters that have no place in a query. -/
def barredInQuery : Text := "\x22#<>"

/-- The characters that have no place in a path. -/
def barredInPath : Text := "\x22#<>?\x60\x7b\x7d"

/-- The characters that have no place in a fragment. -/
def barredInFragment : Text := "\x22<>\x60"

/-- The characters that have no place in the name of a user. -/
def barredInUser : Text := "\x22#<>?\x60\x7b\x7d/;=@[\\]^|"

/-- The characters that have no place in a host. -/
def barredInHost : Text := "#<>?/:@[]^"

end Url

end BranchingStory
