import BranchingStory.Text.Hex
import BranchingStory.Text.Utf16

/-!
# Escapes

Text in bytes that stand for the first 256 characters, in which a backslash begins an
escape.  The machine takes one byte at a time.  Long escapes give the code of a character
in hexadecimal digits; short ones, which not every charset has, give common controls,
quotation marks, codes in octal digits and names.  No name is known.
-/

namespace BranchingStory

namespace Escapes

/-- Where the machine stands: between characters, behind a backslash, in digits with
`owed + 1` hexadecimal or at most `owed + 1` octal ones to come and `value` the code so
far, or in a name. -/
inductive State where
  | start
  | behindBackslash
  | hexadecimal (owed value : Nat)
  | octal (owed value : Nat)
  | beforeName
  | name (isEmpty : Bool)
  deriving Repr, DecidableEq

/-- What comes out: the code of a character or half a surrogate pair, or something
malformed. -/
abbrev Codes := List (Option Nat)

/-- The code of an ASCII character. -/
def codeOf (c : Char) : Nat := c.toNat

/-- The codes that short escapes of one character stand for. -/
def shortCodes : List (Nat × Nat) :=
  [(codeOf '\\', codeOf '\\'), (codeOf '\'', codeOf '\''), (codeOf '"', codeOf '"'),
   (codeOf 'a', 7), (codeOf 'b', 8), (codeOf 't', 9), (codeOf 'n', 10), (codeOf 'v', 11),
   (codeOf 'f', 12), (codeOf 'r', 13)]

/-- The value of an octal digit. -/
def octalValue? (b : Nat) : Option Nat :=
  if codeOf '0' ≤ b ∧ b ≤ codeOf '7' then some (b - codeOf '0') else none

/-- The byte between characters. -/
def first (b : Nat) : Codes × State :=
  if b = codeOf '\\' then ([], .behindBackslash) else ([some b], .start)

/-- The byte behind a backslash. -/
def second (short : Bool) (b : Nat) : Codes × State :=
  if b = codeOf 'u' then ([], .hexadecimal 3 0)
  else if b = codeOf 'U' then ([], .hexadecimal 7 0)
  else if short && b = codeOf 'x' then ([], .hexadecimal 1 0)
  else if short && b = codeOf 'N' then ([], .beforeName)
  else if short && b = codeOf '\n' then ([], .start)
  else
    match shortCodes.lookup b, octalValue? b with
    | some n, _ => (if short then [some n] else [some (codeOf '\\'), some b], .start)
    | none, some d => if short then ([], .octal 1 d) else ([some (codeOf '\\'), some b], .start)
    | none, none => ([some (codeOf '\\'), some b], .start)

/-- Codes before what comes out. -/
def put (codes : Codes) (out : Codes × State) : Codes × State :=
  (codes ++ out.1, out.2)

/-- A code as far as there is a character or half a surrogate pair for it. -/
def code? (n : Nat) : Option Nat :=
  if n ≤ 0x10FFFF then some n else none

/-- One byte. -/
def step (short : Bool) : State → Nat → Codes × State
  | .start, b => first b
  | .behindBackslash, b => second short b
  | .hexadecimal owed value, b =>
    match hexValue? (Char.ofNat b) with
    | none => put [none] (first b)
    | some d =>
      match owed with
      | 0 => ([code? (value * 16 + d)], .start)
      | owed + 1 => ([], .hexadecimal owed (value * 16 + d))
  | .octal owed value, b =>
    match octalValue? b with
    | none => put [some value] (first b)
    | some d =>
      match owed with
      | 0 => ([some (value * 8 + d)], .start)
      | owed + 1 => ([], .octal owed (value * 8 + d))
  | .beforeName, b => if b = codeOf '\x7b' then ([], .name true) else put [none] (first b)
  | .name isEmpty, b =>
    if b = codeOf '\x7d' then (if isEmpty then put [none] (first b) else ([none], .start))
    else ([], .name false)

/-- Several bytes. -/
def runCodes (short : Bool) : State → Bytes → Codes × State
  | s, [] => ([], s)
  | s, b :: bs =>
    let (out, s) := step short s b.toNat
    put out (runCodes short s bs)

/-- A pause behind bytes: octal digits that are there are the whole number. -/
def pause : State → Codes × State
  | .octal _ value => ([some value], .start)
  | s => ([], s)

/-- The character of a code. -/
def char? (n : Nat) : Option Char :=
  if n.isValidChar then some (Char.ofNat n) else none

/-- The characters of codes.  Half a surrogate pair without the other half is malformed. -/
def joinPairs : Codes → Utf8.Output
  | [] => []
  | some high :: some low :: codes =>
    if Utf16.isHigh high && Utf16.isLow low then some (Utf16.join high low) :: joinPairs codes
    else char? high :: joinPairs (some low :: codes)
  | code :: codes => code.bind char? :: joinPairs codes

/-- The text of several bytes, and where the machine stands afterwards. -/
def run (short : Bool) (s : State) (bs : Bytes) : Utf8.Output × State :=
  let (out, s) := runCodes short s bs
  let (last, s) := pause s
  (joinPairs (out ++ last), s)

/-- The end of the text. -/
def finish (short : Bool) : State → Utf8.Output
  | .start => []
  | .behindBackslash => [if short then none else some '\\']
  | _ => [none]

end Escapes

end BranchingStory
