import BranchingStory.Json.Basic

/-!
# Pauses

The pause behind each character on a terminal, in seconds.  The setting gives it in
milliseconds as a JSON value; only numbers and truth values give a pause, and only a
pause that is not negative and not too long can be made.
-/

namespace BranchingStory

namespace Pause

/-- Why there is no pause, or why it cannot be made. -/
inductive Fault where
  /-- The value is neither a number nor a truth value. -/
  | notNumeric
  | tooLong
  | negative
  /-- The value is a number format's sign for no number. -/
  | notNumber
  deriving Repr, DecidableEq

/-- How many milliseconds a second has. -/
def milliseconds : Nat := 1000

/-- The seconds that an integer of milliseconds makes. -/
def ofMilliseconds (n : Int) : Except Fault Binary64 :=
  match Binary64.ofRatio (n < 0) n.natAbs milliseconds with
  | .infinite _ => .error .tooLong
  | x => .ok x

/-- The seconds that a value of milliseconds makes. -/
def ofJson : Json → Except Fault Binary64
  | .bool b => ofMilliseconds b.toNat
  | .int n => ofMilliseconds n
  | .float x => .ok (x.divNat milliseconds)
  | _ => .error .notNumeric

/-- How many nanoseconds a second has. -/
def nanoseconds : Nat := 1000000000

/-- Where the nanoseconds of a pause end, in integers of 64 bits with a sign. -/
def limit : Nat := 9223372036854775808

/-- Why a pause cannot be made, if it cannot.  Its nanoseconds are first rounded to a number
of the same format; those of a negative pause may come to the least integer. -/
def fault? (x : Binary64) : Option Fault :=
  match x with
  | .nan => some .notNumber
  | .infinite _ => some .tooLong
  | .finite negative m e =>
    let size := Binary64.ofRatio false (shiftUp (nanoseconds * m) e) (shiftUp 1 (-e))
    if !size.isAtMost (if negative then limit else limit - 1) then some .tooLong
    else if negative && m ≠ 0 then some .negative
    else none

/-- The milliseconds of a pause, cut down to a whole number. -/
def wholeMilliseconds : Binary64 → Nat
  | .finite false m e => shiftUp (milliseconds * m) e / shiftUp 1 (-e)
  | _ => 0

/-- What a message says about a pause. -/
def Fault.message : Fault → Text
  | notNumeric => "the pause is not a number"
  | tooLong => "the pause is too long"
  | negative => "sleep length must be non-negative"
  | notNumber => "Invalid value NaN (not a number)"

end Pause

end BranchingStory
