import BranchingStory.Store.Settings
import BranchingStory.Text.Numeral

/-!
# Piece sizes

The setting for the size of pieces may be any JSON value.  Null, false and everything
empty mean zero, a number is cut down to an integer, and a text is read as a numeral.
-/

namespace BranchingStory

namespace PieceSize

/-- Why a value is no size. -/
inductive Fault where
  /-- The text is no numeral. -/
  | numeral (f : Numeral.Fault)
  /-- The string is no text. -/
  | brokenText
  /-- The value is a number format's sign for no number. -/
  | notNumber
  | infinite
  /-- The value is a list or an object. -/
  | compound
  deriving Repr, DecidableEq

/-- The size that a value means. -/
def ofJson : Json → Except Fault Int
  | .null => .ok 0
  | .bool b => .ok b.toNat
  | .int n => .ok n
  | .float .nan => .error .notNumber
  | .float x =>
    match x.truncate? with
    | some n => .ok n
    | none => .error .infinite
  | .str (.text []) => .ok 0
  | .str (.text t) => (Numeral.read t).mapError .numeral
  | .str (.half _ _ _) => .error .brokenText
  | .arr [] => .ok 0
  | .obj [] => .ok 0
  | _ => .error .compound

end PieceSize

end BranchingStory
