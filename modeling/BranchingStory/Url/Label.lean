import BranchingStory.Text.Case
import BranchingStory.Text.Composition
import BranchingStory.Text.Direction
import BranchingStory.Text.Punycode
import BranchingStory.Url.LabelSets

/-!
# Labels

The parts of a host name between dots.  A label is composed text without hyphens at its
ends or in its third and fourth place; its characters are allowed ones, some of them only
beside certain others; and letters that are written from the right do not mix with letters
that are written from the left.  A label that is not ASCII is sent in Punycode behind
`xn--`.
-/

namespace BranchingStory

namespace Label

/-- Why a text is no label. -/
inductive Fault where
  | malformed
  /-- A character has no place in labels. -/
  | character
  /-- A character has no place beside its neighbours. -/
  | neighbours
  /-- The directions of the characters do not go together. -/
  | direction
  deriving Repr, DecidableEq

/-- The most characters of a label that is looked at. -/
def lengthLimit : Nat := 254

/-- The most characters of a label as it is sent. -/
def sentLimit : Nat := 63

/-- What stands in front of Punycode. -/
def mark : Text := "xn--"

/-! ## Neighbours -/

/-- The class of marks that join consonants. -/
def joinerClass : Nat := 9

/-- Whether the last of the characters before a joiner, given from the end, is a mark that
joins consonants. -/
def behindJoiner : Text → Bool
  | [] => false
  | c :: _ => markClass c == joinerClass

/-- The next character that joints do not pass over. -/
def nextJoint (t : Text) : Option Char :=
  (t.dropWhile transparentSet.contains).head?

/-- Whether the letters around a place are joined across it; those before it are given from
the end. -/
def joinedAcross (before behind : Text) : Bool :=
  (nextJoint before).any (fun c => joinsBothSet.contains c || joinsBehindSet.contains c)
    && (nextJoint behind).any (fun c => joinsBothSet.contains c || joinsBeforeSet.contains c)

/-- Whether a character is one of the digits of Arabic. -/
def isArabicDigit (c : Char) : Bool :=
  0x660 ≤ c.toNat && c.toNat ≤ 0x669

/-- Whether a character is one of the digits of Persian. -/
def isPersianDigit (c : Char) : Bool :=
  0x6F0 ≤ c.toNat && c.toNat ≤ 0x6F9

/-- Whether a character needs certain neighbours. -/
def isBound (c : Char) : Bool :=
  [0xB7, 0x375, 0x5F3, 0x5F4, 0x200C, 0x200D, 0x30FB].contains c.toNat || isArabicDigit c
    || isPersianDigit c

/-- Whether a character that needs certain neighbours has them; those before it are given
from the end. -/
def fits (before : Text) (c : Char) (behind : Text) : Bool :=
  if c.toNat = 0x200C then behindJoiner before || joinedAcross before behind
  else if c.toNat = 0x200D then behindJoiner before
  else if c.toNat = 0xB7 then before.head? == some 'l' && behind.head? == some 'l'
  else if c.toNat = 0x375 then behind.head?.any greekSet.contains
  else if c.toNat = 0x5F3 ∨ c.toNat = 0x5F4 then before.head?.any hebrewSet.contains
  else if c.toNat = 0x30FB then
    before.any eastAsianSet.contains || behind.any eastAsianSet.contains
  else if isArabicDigit c then !(before.any isPersianDigit || behind.any isPersianDigit)
  else !(before.any isArabicDigit || behind.any isArabicDigit)

/-- Checks the characters of a label from `t` on; those before it are given from the end. -/
def checkCharacters : (before : Text) → (t : Text) → Except Fault Unit
  | _, [] => .ok ()
  | before, c :: t =>
    if allowedSet.contains c then checkCharacters (c :: before) t
    else if !isBound c then .error .character
    else if fits before c t then checkCharacters (c :: before) t
    else .error .neighbours

/-! ## Directions -/

/-- Whether a direction is one of letters that are written from the right. -/
def isFromRight (d : Direction) : Bool :=
  d == .right || d == .arabic

/-- Whether the last character that is no mark has one of some directions. -/
def endsIn (good : List Direction) (ds : List Direction) : Bool :=
  ((ds.reverse.dropWhile (· == .mark)).head?).any good.contains

/-- Whether directions go together, of which some belong to letters from the right or
Arabic digits. -/
def directionsFit (ds : List Direction) : Bool :=
  match ds.head? with
  | none => true
  | some d =>
    if isFromRight d then
      !ds.contains .left && endsIn [.right, .arabic, .number, .arabicNumber] ds
        && !(ds.contains .number && ds.contains .arabicNumber)
    else
      d == .left && !ds.any (fun d => isFromRight d || d == .arabicNumber)
        && endsIn [.left, .number] ds

/-- Checks the directions of a label. -/
def checkDirections (t : Text) : Except Fault Unit :=
  let ds := t.map Direction.ofChar
  if ds.any (fun d => isFromRight d || d == .arabicNumber) && !directionsFit ds then
    .error .direction
  else .ok ()

/-! ## Whole labels -/

/-- Whether the hyphens of a text stand where a label may have them. -/
def hyphensFit (t : Text) : Bool :=
  (t.drop 2).take 2 != ['-', '-'] && t.head? != some '-' && t.getLast? != some '-'

/-- Checks a label as it is read. -/
def check (t : Text) : Except Fault Unit := do
  if t.isEmpty || lengthLimit < t.length || !Text.isComposed t || !hyphensFit t
      || t.head?.any markSet.contains then
    throw .malformed
  checkCharacters [] t
  checkDirections t

/-- The label that a sent one stands for; it is checked. -/
def ofSent (t : Text) : Except Fault Text :=
  let t := t.map Char.toLower
  match Text.after? mark t with
  | none => (check t).map fun _ => t
  | some code =>
    if code.isEmpty || code.getLast? == some '-' then .error .malformed
    else
      match Punycode.decode? code with
      | none => .error .malformed
      | some u => (check u).map fun _ => u

/-- A label as it is sent; it is checked. -/
def toSent (t : Text) : Except Fault Text := do
  let sent ← if t.all (·.toNat < 0x80) then (ofSent t).map fun _ => t
    else (check t).map fun _ => mark ++ Punycode.encode t
  if sentLimit < sent.length then throw .malformed
  return sent

end Label

end BranchingStory
