import BranchingStory.Text.Blank
import BranchingStory.Text.Word

/-!
# Tag names

Tag names are read without regard to case.  A letter of a name is also spelled by the
other characters that fold to it: the long s, the dotless i, the capital i with a dot
and the Kelvin sign.  A closing tag that has to repeat the spelling of its opening tag
is compared by `plainForm`, under which the long s and the dotless i stand for
themselves only.
-/

namespace BranchingStory

namespace TagName

/-- The form under which two spellings of a name are compared. -/
def plainForm (c : Char) : Char :=
  if 65 ≤ c.toNat ∧ c.toNat ≤ 90 then Char.ofNat (c.toNat + 32)
  else if c = '\u212a' then 'k'
  else if c = '\u0130' then 'i'
  else c

/-- Whether `c` spells the letter `letter` of a name. -/
def spells (letter c : Char) : Bool :=
  plainForm c == letter || (letter == 's' && c == '\u017f') || (letter == 'i' && c == '\u0131')

/-- The spelling of `name` at the front of a text and the rest. -/
def take? : (name t : Text) → Option (Text × Text)
  | [], t => some ([], t)
  | _ :: _, [] => none
  | a :: name, c :: t =>
    if spells a c then (take? name t).map fun p => (c :: p.1, p.2) else none

/-- The rest of a text that begins with a repetition of `spelling`. -/
def afterSame? : (spelling t : Text) → Option Text
  | [], t => some t
  | _ :: _, [] => none
  | a :: spelling, c :: t =>
    if plainForm a = plainForm c then afterSame? spelling t else none

/-- The rest behind blanks and a closing angle bracket. -/
def tagEnd? (t : Text) : Option (Text × Text) :=
  match t.dropWhile isBlank with
  | '>' :: rest => some (t.takeWhile isBlank ++ ['>'], rest)
  | _ => none

/-- The closing tag of `name` at the front of a text, and the rest. -/
def closing? (name : Text) : Text → Option (Text × Text)
  | '<' :: '/' :: t =>
    match take? name t with
    | none => none
    | some (spelling, rest) =>
      (tagEnd? rest).map fun p => ('<' :: '/' :: spelling ++ p.1, p.2)
  | _ => none

/-- The rest behind the closing tag that repeats `spelling`. -/
def closingSame? (spelling : Text) : Text → Option Text
  | '<' :: '/' :: t => do
    let rest ← afterSame? spelling t
    let p ← tagEnd? rest
    return p.2
  | _ => none

end TagName

end BranchingStory
