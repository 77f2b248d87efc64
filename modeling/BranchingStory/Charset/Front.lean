import BranchingStory.Charset.Basic

/-!
# Fronts

A charset with several bytes for a character is read from the front: the bytes there write
a text, or are malformed, or have to wait for more.  `Front.run` reads on as far as it
can.
-/

namespace BranchingStory

namespace Charset

/-- What stands in front of bytes; a text says with which state reading goes on. -/
inductive Front (σ : Type) where
  /-- More bytes have to come. -/
  | unfinished
  /-- The first byte and `more` others are malformed. -/
  | malformed (more : Nat)
  /-- The first byte and `more` others write a text. -/
  | text (more : Nat) (t : Text) (next : σ)
  /-- Characters are asked for that no charset has been set for. -/
  | unset
  deriving Repr, DecidableEq

namespace Front

variable {σ : Type}

/-- Reads on as far as possible; what comes out, the state and the bytes that wait. -/
def run (front : σ → UInt8 → Bytes → Front σ) (s : σ) (bs : Bytes) :
    Except Fault (Utf8.Output × σ × Bytes) :=
  match bs with
  | [] => .ok ([], s, [])
  | b :: rest =>
    match front s b rest with
    | .unfinished => .ok ([], s, b :: rest)
    | .malformed more => (run front s (rest.drop more)).map fun r => (none :: r.1, r.2)
    | .text more t next =>
      (run front next (rest.drop more)).map fun r => (t.map some ++ r.1, r.2)
    | .unset => .error .unset
termination_by bs.length
decreasing_by all_goals simp only [List.length_cons, List.length_drop]; omega

/-- The most bytes that may wait. -/
def mostWaiting : Nat := 8

/-- Reads on behind bytes that wait. -/
def feed (front : σ → UInt8 → Bytes → Front σ) (s : σ) (kept bs : Bytes) :
    Except Fault (Utf8.Output × σ × Bytes) := do
  let (out, s, kept) ← run front s (kept ++ bs)
  if mostWaiting < kept.length then throw .tooManyWait
  return (out, s, kept)

/-- What the end gives of bytes that wait. -/
def finish (kept : Bytes) : Utf8.Output :=
  if kept.isEmpty then [] else [none]

/-- A byte of ASCII, or else what `other` gives. -/
def asciiOr (other : UInt8 → Bytes → Front Unit) (_ : Unit) (a : UInt8) (rest : Bytes) :
    Front Unit :=
  if a < 0x80 then .text 0 [Char.ofNat a.toNat] () else other a rest

/-- Two bytes that write a text, if they do. -/
def pair (text? : (a b : Nat) → Option Text) (a : UInt8) : Bytes → Front Unit
  | [] => .unfinished
  | b :: _ =>
    match text? a.toNat b.toNat with
    | some t => .text 1 t ()
    | none => .malformed 0

end Front

/-- The number of two bytes. -/
def pairNumber (a b : Nat) : Nat :=
  a * 256 + b

/-- The character of a chart of rows and columns, where both have the high bit set. -/
def highPair? (c : Nat → Option Char) (a b : Nat) : Option Char :=
  if 0x80 ≤ a ∧ 0x80 ≤ b then c (pairNumber (a - 0x80) (b - 0x80)) else none

end Charset

end BranchingStory
