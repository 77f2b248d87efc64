import BranchingStory.Text.Digit
import BranchingStory.Text.Hex
import BranchingStory.Text.Split

/-!
# Addresses of hosts

Hosts that are written as numbers: four decimal numbers with points between them, or eight
hexadecimal ones with colons, of which two colons may leave out some that are zero.
-/

namespace BranchingStory

namespace Host

/-- Whether a text is a decimal number below 256 without needless zeros. -/
def isOctet (t : Text) : Bool :=
  match t.mapM asciiDigit? with
  | some ds => !ds.isEmpty && ds.length ≤ 3 && (ds.head? != some 0 || ds.length == 1)
      && ofDigits ds < 256
  | none => false

/-- Whether a text is four numbers with points between them. -/
def isAddress4 (t : Text) : Bool :=
  let parts := Text.split '.' t
  parts.length == 4 && parts.all isOctet

/-- The runs of digits in a text between single other characters. -/
def digitRuns : Text → List Text
  | [] => [[]]
  | c :: t =>
    match digitRuns t with
    | [] => [[c]]
    | r :: rs => if (asciiDigit? c).isSome then (c :: r) :: rs else [] :: r :: rs

/-- Whether a text looks like four numbers with any one character between each two, which
may be a digit too: a run of digits holds as many such characters as leave a digit around
each. -/
def looksLikeAddress4 (t : Text) : Bool :=
  let runs := digitRuns t
  let inside := runs.foldl (fun n r => n + (r.length - 1) / 2) 0
  runs.all (!·.isEmpty) && runs.length ≤ 4 && 4 ≤ runs.length + inside

/-- Whether a text is a hexadecimal number of at most four digits. -/
def isGroup (t : Text) : Bool :=
  !t.isEmpty && t.length ≤ 4 && t.all fun c => (hexValue? c).isSome

/-- How many groups stand between colons; the last may be an address of four numbers, which
makes two. -/
def groupCount? (parts : List Text) : Option Nat :=
  match parts.getLast? with
  | none => some 0
  | some last =>
    if parts.dropLast.all isGroup then
      if isGroup last then some parts.length
      else if last.contains '.' && isAddress4 last then some (parts.length + 1)
      else none
    else none

/-- What stands before and behind the first two colons in a row. -/
def cutAtGap? : Text → Option (Text × Text)
  | [] => none
  | c :: t =>
    if c = ':' ∧ t.head? = some ':' then some ([], t.drop 1)
    else (cutAtGap? t).map fun p => (c :: p.1, p.2)

/-- The parts of a text between colons, none when it is empty. -/
def groups (t : Text) : List Text :=
  if t.isEmpty then [] else Text.split ':' t

/-- Whether a text is groups with colons between them: eight, or fewer with two colons in a
row for those that are left out. -/
def isGroups6 (t : Text) : Bool :=
  match cutAtGap? t with
  | none => groupCount? (groups t) == some 8
  | some (before, behind) =>
    (groups before).all isGroup
      && (match groupCount? (groups behind) with
          | some n => (groups before).length + n ≤ 7
          | none => false)

/-- Whether a text is an address with colons, perhaps with a zone behind a percent sign. -/
def isAddress6 (t : Text) : Bool :=
  let (address, zone) := t.span (· ≠ '%')
  isGroups6 address && (zone.isEmpty || (zone.length > 1 && !(zone.drop 1).contains '%'))

end Host

end BranchingStory
