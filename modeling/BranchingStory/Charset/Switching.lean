import BranchingStory.Charset.Chinese
import BranchingStory.Charset.Japanese
import BranchingStory.Charset.Korean
import BranchingStory.Charset.Page.Iso

/-!
# Charsets with escape sequences

An escape sequence sets one of a few sets of characters, and bytes mean what that set says
until another one is set.  Some charsets have a second place for a set, to which a shift
goes over, and one has a third place, for single characters.  An escape that begins no
such sequence is passed on as it is up to its end.
-/

namespace BranchingStory

namespace Charset.Switching

/-- A set of characters. -/
inductive CharSet where
  | ascii
  | latin
  | greek
  | roman
  | narrow
  | gb2312
  | jisX0208
  /-- JIS X 0208 by the name of what came before it. -/
  | oldJisX0208
  | ksX1001
  | jisX0212
  | firstPlane (e : Edition)
  | secondPlane
  deriving Repr, DecidableEq

namespace CharSet

/-- The number of bytes of a character. -/
def width : CharSet → Nat
  | ascii | latin | greek | roman | narrow => 1
  | _ => 2

/-- The set that the last byte of an escape sequence names; `double` is whether it is one
of two bytes for a character. -/
def ofFinal? (double : Bool) (final : UInt8) : Option CharSet :=
  match double, Char.ofNat final.toNat with
  | false, 'A' => some latin
  | false, 'B' => some ascii
  | false, 'F' => some greek
  | false, 'I' => some narrow
  | false, 'J' => some roman
  | true, '@' => some oldJisX0208
  | true, 'B' => some jisX0208
  | true, 'A' => some gb2312
  | true, 'C' => some ksX1001
  | true, 'D' => some jisX0212
  | true, 'O' => some (firstPlane .first)
  | true, 'P' => some secondPlane
  | true, 'Q' => some (firstPlane .second)
  | _, _ => none

/-- The character of one byte; those of two sets can only be asked for singly. -/
def one? (s : CharSet) (a : Nat) : Option Char :=
  match s with
  | ascii => some (Char.ofNat a)
  | roman =>
    if a = 0x5C then some '\u00A5' else if a = 0x7E then some '\u203E'
    else some (Char.ofNat a)
  | narrow => Japanese.narrow? (a + 0x80)
  | _ => none

/-- The text of two bytes. -/
def two? (s : CharSet) (n : Nat) : Option Text :=
  match s with
  | gb2312 => (Chart.char? Chart.gb2312 n).map ([·])
  | jisX0208 | oldJisX0208 => (Japanese.jisX0208? n).map ([·])
  | ksX1001 => (Chart.char? Chart.ksX1001 n).map ([·])
  | jisX0212 => (Japanese.jisX0212? n).map ([·])
  | firstPlane e => Japanese.firstPlane? e n
  | secondPlane => Japanese.secondPlane? .second n
  | _ => none

end CharSet

/-! ## What the charsets have -/

/-- The sets that may be set besides ASCII. -/
def sets : Switching → List CharSet
  | korean => [.ksX1001]
  | japanese => [.jisX0208, .oldJisX0208, .roman]
  | japanese1 => [.jisX0208, .oldJisX0208, .jisX0212, .roman]
  | japanese2 =>
    [.jisX0208, .oldJisX0208, .jisX0212, .ksX1001, .gb2312, .roman, .latin, .greek]
  | japanese3 => [.jisX0208, .firstPlane .first, .secondPlane]
  | japanese2004 => [.jisX0208, .firstPlane .second, .secondPlane]
  | japaneseExtended => [.jisX0208, .oldJisX0208, .jisX0212, .roman, .narrow]

/-- Whether there are shifts. -/
def shifts (k : Switching) : Bool :=
  k = korean

/-- Whether there is a place for single characters. -/
def hasSingles (k : Switching) : Bool :=
  k = japanese2

/-- Whether a sequence may begin with a mark of a revision. -/
def hasRevisions (k : Switching) : Bool :=
  k ≠ korean

/-- What has been set: the sets at the three places, whether the second one counts, and
whether an escape is being passed on. -/
structure State where
  first : CharSet
  second : CharSet
  single : CharSet
  shifted : Bool
  passing : Bool
  deriving Repr, DecidableEq

/-- What is set at the start of a text. -/
def State.start : State :=
  ⟨.ascii, .ascii, .ascii, false, false⟩

/-! ## Escape sequences -/

/-- The escape. -/
def escape : UInt8 := 0x1B

/-- Whether a byte ends an escape sequence. -/
def endsSequence (b : UInt8) : Bool :=
  0x40 ≤ b && b ≤ 0x5A

/-- Whether a byte behind an escape begins a sequence that sets something: one of the dollar
sign, the ampersand, round brackets and the full stop. -/
def beginsSequence (b : UInt8) : Bool :=
  b = 0x24 || b = 0x26 || b = 0x28 || b = 0x29 || b = 0x2E

/-- How far an escape sequence goes. -/
inductive Extent where
  | unfinished
  | endless
  | length (n : Nat)
  deriving Repr, DecidableEq

/-- The greatest length of a sequence. -/
def longest : Nat := 16

/-- How far a sequence goes of which `before` bytes have been looked at.  The end of a mark
of a revision is not the end. -/
def extent (revisions : Bool) : (before : Nat) → Bytes → Extent
  | before, [] => if longest ≤ before then .endless else .unfinished
  | before, b :: rest =>
    if longest ≤ before then .endless
    else if endsSequence b then .length (before + 1)
    else
      match revisions && b = 0x26, rest with
      | true, 0x40 :: [] => if longest ≤ before + 3 then .endless else .unfinished
      | true, 0x40 :: _ :: rest => extent revisions (before + 3) rest
      | _, rest => extent revisions (before + 1) rest

/-- A place for a set. -/
inductive Place where
  | first
  | second
  | single
  deriving Repr, DecidableEq

/-- What a whole escape sequence, without the escape, asks for: a place, and the set that
is to be there. -/
def request? (k : Switching) : Bytes → Option (Place × Option CharSet)
  | [0x24, final] => some (.first, CharSet.ofFinal? true final)
  | [0x28, final] => some (.first, CharSet.ofFinal? false final)
  | [0x29, final] => some (.second, CharSet.ofFinal? false final)
  | [0x2E, final] => if k.hasSingles then some (.single, CharSet.ofFinal? false final) else none
  | [0x24, 0x28, final] => some (.first, CharSet.ofFinal? true final)
  | [0x24, 0x29, final] => some (.second, CharSet.ofFinal? true final)
  | [_, _, 0x1B, 0x24, 0x42] => if k.hasRevisions then some (.first, some .jisX0208) else none
  | _ => none

/-- A state in which a set is at a place. -/
def State.setAt (s : State) (p : Place) (c : CharSet) : State :=
  match p with
  | .first => { s with first := c }
  | .second => { s with second := c }
  | .single => { s with single := c }

/-- Takes an escape sequence, behind its escape. -/
def takeSequence (k : Switching) (s : State) (rest : Bytes) : Front State :=
  match extent k.hasRevisions 1 rest with
  | .unfinished => .unfinished
  | .endless => .malformed 0
  | .length n =>
    match request? k (rest.take (n - 1)) with
    | some (place, some set) =>
      if set = .ascii || k.sets.contains set then .text (n - 1) [] (s.setAt place set)
      else .malformed (n - 1)
    | _ => .malformed (n - 1)

/-- The bytes of the Greek page that were given characters later. -/
def laterGreek : List Nat := [0xA4, 0xA5, 0xAA]

/-- The character of a byte in the Greek page as it was at first. -/
def greek? (n : Nat) : Option Char :=
  if laterGreek.contains n then none else Page.greek.char? (UInt8.ofNat n)

/-- Takes a single character behind an escape and a capital N. -/
def takeSingle (s : State) (rest : Bytes) : Front State :=
  match rest with
  | _ :: c :: _ =>
    let n := c.toNat
    match s.single with
    | .ascii => if n < 0x80 then .text 2 [Char.ofNat n] s else .malformed 2
    | .latin => if n < 0x80 then .text 2 [Char.ofNat (n + 0x80)] s else .malformed 2
    | .greek =>
      match greek? (if n < 0x80 then n + 0x80 else n - 0x80) with
      | some c => .text 2 [c] s
      | none => .malformed 2
    | _ => .unset
  | _ => .unfinished

/-- Takes an escape and what belongs to it. -/
def takeEscape (k : Switching) (s : State) (rest : Bytes) : Front State :=
  match rest with
  | [] => .unfinished
  | b :: _ =>
    if beginsSequence b then takeSequence k s rest
    else if k.hasSingles && b = 0x4E then takeSingle s rest
    else .text 0 [Char.ofNat escape.toNat] { s with passing := true }

/-- Takes a character of the set that counts. -/
def takeChar (s : State) (a : UInt8) (rest : Bytes) : Front State :=
  let set := if s.shifted then s.second else s.first
  if set.width = 1 then
    match set.one? a.toNat with
    | some c => .text 0 [c] s
    | none => .malformed 0
  else
    match rest with
    | [] => .unfinished
    | b :: _ =>
      match set.two? (pairNumber a.toNat b.toNat) with
      | some t => .text 1 t s
      | none => .malformed 1

/-- What stands in front of bytes.  Controls are the same in all sets, and a line feed ends
a shift. -/
def front (k : Switching) (s : State) (a : UInt8) (rest : Bytes) : Front State :=
  let char := Char.ofNat a.toNat
  if s.passing then .text 0 [char] { s with passing := !endsSequence a }
  else if a = escape then takeEscape k s rest
  else if k.shifts && a = 0x0F then .text 0 [] { s with shifted := false }
  else if k.shifts && a = 0x0E then .text 0 [] { s with shifted := true }
  else if a = 0x0A then .text 0 [char] { s with shifted := false }
  else if a < 0x20 then .text 0 [char] s
  else if 0x80 ≤ a then .malformed 0
  else takeChar s a rest

end Charset.Switching

end BranchingStory
