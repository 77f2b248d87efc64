import BranchingStory.Text.Blank
import BranchingStory.Text.Quoted
import BranchingStory.Text.Utf8

/-!
# Strings

A string of JSON can hold what no text can: half of a surrogate pair that stands alone.
A `Str` is a text, or a text, such a half, and a further string behind them, so each
string can be told in one way only.
-/

namespace BranchingStory

/-- Half of a surrogate pair, by its code. -/
structure Half where
  code : Nat
  isSurrogate : 0xD800 ≤ code ∧ code < 0xE000
  deriving Repr, DecidableEq

namespace Half

/-- The half with a code, when the code is that of one. -/
def ofCode? (n : Nat) : Option Half :=
  if h : 0xD800 ≤ n ∧ n < 0xE000 then some ⟨n, h⟩ else none

/-- Whether a half is the first of its pair. -/
def isFirst (h : Half) : Bool :=
  h.code < 0xDC00

/-- The character of a first and a second half. -/
def join (first second : Half) : Char :=
  Char.ofNat (0x10000 + (first.code - 0xD800) * 0x400 + (second.code - 0xDC00))

end Half

/-- A string: a text that may have halves of surrogate pairs in it. -/
inductive Str where
  | text (t : Text)
  | half (lead : Text) (h : Half) (rest : Str)
  deriving Repr, DecidableEq

instance : Coe Text Str where
  coe := Str.text

namespace Str

/-- Texts are the same string when they are the same text. -/
@[simp]
theorem text_beq_text (t u : Text) :
  (text t == text u) = (t == u)
  := by
  rw [Bool.eq_iff_iff, beq_iff_eq, beq_iff_eq, text.injEq]

/-- A string with a character in front. -/
def cons (c : Char) : Str → Str
  | text t => text (c :: t)
  | half lead h rest => half (c :: lead) h rest

/-- A string with a half in front. -/
def consHalf (h : Half) (s : Str) : Str :=
  half [] h s

/-- The text that a string is. -/
def text? : Str → Option Text
  | text t => some t
  | half _ _ _ => none

/-- Whether a half stands somewhere in a string. -/
def hasHalf : Str → Bool
  | text _ => false
  | half _ _ _ => true

/-- A text holds no half. -/
@[simp]
theorem hasHalf_text (t : Text) :
  (text t).hasHalf = false
  := rfl

/-- The text in front of the first half. -/
def front : Str → Text
  | text t => t
  | half lead _ _ => lead

/-- The texts before, between and behind the halves. -/
def texts : Str → List Text
  | text t => [t]
  | half lead _ rest => lead :: rest.texts

/-- The text that `char` makes of the characters and `half` of the halves. -/
def render (char : Char → Text) (half : Half → Text) : Str → Text
  | text t => t.flatMap char
  | .half lead h rest => lead.flatMap char ++ half h ++ rest.render char half

/-- The text in which three replacement characters stand for each half, one for each of
the bytes that would have encoded it. -/
def mended : Str → Text
  | text t => t
  | half lead _ rest => lead ++ List.replicate 3 replacementChar ++ rest.mended

/-- Whether nothing stands in a string. -/
def isEmpty (s : Str) : Bool :=
  s == text []

/-- Whether a string consists of blanks only. -/
def isBlankOnly : Str → Bool
  | text t => t.isBlankOnly
  | half _ _ _ => false

/-- The quoted form of a string; a half cannot be printed. -/
def quoted (s : Str) : Text :=
  let mark := Text.quoteMark s.texts.flatten
  [mark] ++ s.render (Text.quoteChar mark) (fun h => ['\\', 'u'] ++ hexText 4 h.code) ++ [mark]

end Str

end BranchingStory
