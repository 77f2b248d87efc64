import BranchingStory.Text.Numeral

/-!
# Plain numerals

The integers that a query may hold.  A plain numeral is zero or digits that begin with
another one, behind an optional minus sign.  A text that is none is tidied before it is
read again: blanks around it go, then a sign, zeros in front together with underscores
between them, a point that only zeros follow, and single underscores between digits.
-/

namespace BranchingStory

namespace PlainNumeral

/-- Why a text is not an integer. -/
inductive Fault where
  | malformed
  | tooLong
  deriving Repr, DecidableEq

/-- The most digits of an integer. -/
def digitLimit : Nat := 4300

/-- Whether a character is a digit from one to nine. -/
def isLeading (c : Char) : Bool :=
  '1' ≤ c && c ≤ '9'

/-- Reads digits that do not begin with zero, or a single zero; too many digits are told
of before anything that follows them. -/
def digits (t : Text) : Except Fault Nat :=
  match t with
  | ['0'] => .ok 0
  | c :: _ =>
    if isLeading c then
      let ds := (t.takeWhile fun d => (asciiDigit? d).isSome).filterMap asciiDigit?
      if digitLimit < ds.length then .error .tooLong
      else if ds.length < t.length then .error .malformed
      else .ok (ofDigits ds)
    else .error .malformed
  | [] => .error .malformed

/-- Reads a text that is a plain numeral as it stands. -/
def readPlain : Text → Except Fault Int
  | '-' :: t => (digits t).map fun n => -(n : Int)
  | t => (digits t).map fun n => (n : Int)

/-- A text without blanks around it. -/
def trim (t : Text) : Text :=
  ((t.dropWhile Numeral.isPadding).reverse.dropWhile Numeral.isPadding).reverse

/-- What follows a zero and further zeros and underscores: the text from its first other
digit or minus sign on, or from the character in front of its point on; of zeros and
underscores only the last one stays.  `last` is the character in front. -/
def behindZeros (last : Char) : Text → Option Text
  | [] => some [last]
  | c :: t =>
    if c = '0' ∨ c = '_' then behindZeros c t
    else if isLeading c ∨ c = '-' then some (c :: t)
    else if c = '.' then some (last :: c :: t)
    else none

/-- A text without zeros in front; one that begins with neither a digit nor a minus sign
is refused. -/
def dropZeros : Text → Option Text
  | [] => none
  | c :: t =>
    if c = '0' then behindZeros c t
    else if isLeading c ∨ c = '-' then some (c :: t)
    else none

/-- A text without a point that at least one zero and nothing else follows. -/
def dropFraction (t : Text) : Text :=
  match t.dropWhile (· ≠ '.') with
  | _ :: d :: fraction => if (d :: fraction).all (· = '0') then t.takeWhile (· ≠ '.') else t
  | _ => t

/-- Whether underscores stand one by one inside a text. -/
def underscoresFit (t : Text) : Bool :=
  t.head? != some '_' && t.getLast? != some '_' && !Text.hasPart ['_', '_'] t

/-- A text without underscores, if they stand one by one inside it. -/
def dropUnderscores (t : Text) : Text :=
  if underscoresFit t then t.filter (· ≠ '_') else t

/-- The digits of a text without what need not be written. -/
def tidyDigits (t : Text) : Option Text :=
  (dropZeros t).map fun u => dropUnderscores (dropFraction u)

/-- A text without what need not be written.  A minus sign may stand behind zeros too, but
not behind a plus sign. -/
def tidy (t : Text) : Option Text :=
  match trim t with
  | '+' :: '-' :: _ => none
  | '+' :: u => tidyDigits u
  | '-' :: u => (tidyDigits u).map ('-' :: ·)
  | u => tidyDigits u

/-- The integer that a text writes. -/
def read (t : Text) : Except Fault Int :=
  match readPlain t with
  | .error .malformed =>
    match tidy t with
    | some u => readPlain u
    | none => .error .malformed
  | r => r

end PlainNumeral

end BranchingStory
