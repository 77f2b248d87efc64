import BranchingStory.Url.Label

/-!
# Names of hosts

A name is labels with dots between them, and perhaps a dot at the end.  It is sent in
ASCII, and `HostName.ofSent` gives back what people read.
-/

namespace BranchingStory

namespace HostName

/-- Whether a character stands between labels. -/
def isDot (c : Char) : Bool :=
  [0x2E, 0x3002, 0xFF0E, 0xFF61].contains c.toNat

/-- The labels of a name; a dot at the end stands before an empty one. -/
def labels : Text → List Text
  | [] => [[]]
  | c :: t =>
    match labels t with
    | [] => [[c]]
    | l :: ls => if isDot c then [] :: l :: ls else (c :: l) :: ls

/-- The most characters of a name that does not end in a dot. -/
def lengthLimit : Nat := 253

/-- The name that comes of treating each label. -/
def treat (f : Text → Except Label.Fault Text) (t : Text) : Except Label.Fault Text := do
  if lengthLimit + 1 < t.length || t.isEmpty then throw .malformed
  let ls := labels t
  let closed := ls.getLast? == some []
  let out ← (if closed then ls.dropLast else ls).mapM f
  return List.intercalate ['.'] (if closed then out ++ [[]] else out)

/-- A name as it is sent. -/
def toSent (t : Text) : Except Label.Fault Text := do
  let sent ← treat Label.toSent t
  if (if sent.getLast? = some '.' then lengthLimit + 1 else lengthLimit) < sent.length then
    throw .malformed
  return sent

/-- The name that a sent one stands for. -/
def ofSent (t : Text) : Except Label.Fault Text :=
  treat Label.ofSent t

end HostName

end BranchingStory
