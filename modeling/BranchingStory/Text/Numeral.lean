import BranchingStory.Text.Blank
import BranchingStory.Text.Digit
import BranchingStory.Text.Quoted

/-!
# Numerals

The integers that people type: decimal digits of any script with single underscores
between them, an optional sign in front and blanks around.  `Numeral.read` gives the
integer or the reason why a text is none; a numeral has at most `Numeral.digitLimit`
digits.
-/

namespace BranchingStory

namespace Numeral

/-- The most digits a numeral may have. -/
def digitLimit : Nat := 4300

/-- Why a text is not an integer. -/
inductive Fault where
  /-- The text is not a numeral. -/
  | malformed (text : Text)
  /-- The text begins with a numeral of more than `digitLimit` digits. -/
  | tooLong (digits : Nat)
  deriving Repr, DecidableEq

/-- What a message says about a fault; it shows at most two hundred characters of the
quoted text. -/
def Fault.message : Fault → Text
  | .malformed text =>
    ("invalid literal for int() with base 10: " : Text) ++ (Text.quoted text).take 200
  | .tooLong digits =>
    ("Exceeds the limit (" : Text) ++ decimalDigits digitLimit
      ++ " digits) for integer string conversion: value has " ++ decimalDigits digits
      ++ " digits; use sys.set_int_max_str_digits() to increase the limit"

/-- The information separators U+001C to U+001F, which are blanks but do not stand
around a numeral. -/
def isSeparator (c : Char) : Bool :=
  28 ≤ c.toNat && c.toNat ≤ 31

/-- Whether a character may stand before or after a numeral. -/
def isPadding (c : Char) : Bool :=
  isBlank c && !isSeparator c

/-- The longest run of digits at the front of a text, where single underscores may stand
between digits: the digit values, the rest, and whether the run is well formed. -/
def takeDigits : Text → List Nat × Text × Bool
  | [] => ([], [], true)
  | c :: t =>
    match decimalValue? c with
    | some d =>
      match takeDigits t with
      | (ds, rest, good) => (d :: ds, rest, good)
    | none =>
      if c = '_' then
        match t with
        | [] => ([], [], false)
        | d :: _ =>
          if (decimalValue? d).isSome then takeDigits t else ([], t, false)
      else ([], c :: t, true)

/-- The sign in front of a numeral and what follows it. -/
def takeSign : Text → Bool × Text
  | '-' :: t => (true, t)
  | '+' :: t => (false, t)
  | t => (false, t)

/-- The integer that a text writes. -/
def read (text : Text) : Except Fault Int :=
  let (negative, body) := takeSign (text.dropWhile isPadding)
  if body.head? = some '_' then .error (.malformed text)
  else
    match takeDigits body with
    | (ds, rest, good) =>
      if !good then .error (.malformed text)
      else if digitLimit < ds.length then .error (.tooLong ds.length)
      else if ds.isEmpty || !rest.all isPadding then .error (.malformed text)
      else .ok (if negative then -Int.ofNat (ofDigits ds) else Int.ofNat (ofDigits ds))

end Numeral

end BranchingStory
