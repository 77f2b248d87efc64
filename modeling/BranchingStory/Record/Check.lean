import BranchingStory.Json.Basic
import BranchingStory.Text.Case

/-!
# Checks

A check takes a JSON value to a value of another type, or to the list of all issues
that stand against it, each with its place in the JSON value.  Checks of several parts
are joined by `Checked.both`, which keeps the issues of both parts in their order.
-/

namespace BranchingStory

/-- A step on the way into a JSON value. -/
inductive Step where
  | name (s : Str)
  | index (n : Nat)
  deriving Repr, DecidableEq

/-- What stands against a value. -/
inductive IssueKind where
  /-- A member that must be there is not. -/
  | missing
  /-- The value is no string. -/
  | notText
  /-- The value is a string with half of a surrogate pair in it, and so no text. -/
  | brokenText
  /-- The value is of a type that has no truth value. -/
  | notFlag
  /-- The value is a text or a number, but not one of those that mean true or false. -/
  | unclearFlag
  /-- The value is none of the labels that are allowed. -/
  | unknownLabel
  | notList
  | notMap
  /-- A record stands for itself and is not an object. -/
  | notRecord
  /-- A record inside a value that was read before is not an object. -/
  | notAttributes
  /-- The text is no JSON. -/
  | notJson
  /-- The text is no integer. -/
  | notInteger
  /-- The integer is too long. -/
  | integerTooLong
  /-- The number is below the least one allowed. -/
  | tooSmall
  deriving Repr, DecidableEq

namespace IssueKind

/-- The code of an issue. -/
def code : IssueKind → Text
  | missing => "missing"
  | notText => "string_type"
  | brokenText => "string_unicode"
  | notFlag => "bool_type"
  | unclearFlag => "bool_parsing"
  | unknownLabel => "literal_error"
  | notList => "list_type"
  | notMap => "dict_type"
  | notRecord => "model_type"
  | notAttributes => "model_attributes_type"
  | notJson => "json_invalid"
  | notInteger => "int_parsing"
  | integerTooLong => "int_parsing_size"
  | tooSmall => "greater_than_equal"

end IssueKind

/-- What stands against a value, and where. -/
structure Issue where
  place : List Step
  kind : IssueKind
  deriving Repr, DecidableEq

namespace Step

/-- The JSON form of a step. -/
def toJson : Step → Json
  | name s => .str s.mended
  | index n => .int n

end Step

namespace Issue

/-- The JSON form of an issue: its place and its code. -/
def toJson (i : Issue) : Json :=
  .obj [("loc", .arr (i.place.map Step.toJson)), ("type", .str i.kind.code)]

end Issue

/-- A value that passed its check, or the issues against it. -/
abbrev Checked (α : Type) := Except (List Issue) α

namespace Checked

variable {α β γ κ : Type}

/-- A value that needs no check. -/
def pass (a : α) : Checked α :=
  .ok a

/-- One issue, at the value itself. -/
def fail (kind : IssueKind) : Checked α :=
  .error [⟨[], kind⟩]

/-- The same outcome with the issues moved one step further in. -/
def under (s : Step) : Checked α → Checked α
  | .ok a => .ok a
  | .error issues => .error (issues.map fun i => { i with place := s :: i.place })

/-- Two outcomes as one, joined by `f`; the issues of the first come first. -/
def both (f : α → β → γ) : Checked α → Checked β → Checked γ
  | .ok a, .ok b => .ok (f a b)
  | .ok _, .error issues => .error issues
  | .error issues, .ok _ => .error issues
  | .error issues, .error more => .error (issues ++ more)

/-- A function and its argument. -/
def ap : Checked (α → β) → Checked α → Checked β :=
  both id

/-- Checks the items of a list, the first of which is at `n`. -/
def items (check : Json → Checked α) : (n : Nat) → List Json → Checked (List α)
  | _, [] => .ok []
  | n, v :: vs => both List.cons (under (.index n) (check v)) (items check (n + 1) vs)

/-- Checks the names and the values of the members of an object. -/
def members (checkName : Str → Checked κ) (check : Json → Checked α) :
    List (Str × Json) → Checked (List (κ × α))
  | [] => .ok []
  | (k, v) :: ms =>
    both List.cons (both Prod.mk (under (.name k) (checkName k)) (under (.name k) (check v)))
      (members checkName check ms)

/-- Checks the member `name`, which must be there. -/
def required (name : Str) (check : Json → Checked α) : Option Json → Checked α
  | none => under (.name name) (fail .missing)
  | some v => under (.name name) (check v)

/-- Checks the member `name`, which counts as `absent` when it is not there. -/
def optional (name : Str) (absent : α) (check : Json → Checked α) : Option Json → Checked α
  | none => .ok absent
  | some v => under (.name name) (check v)

/-- The outcome when strings that are no texts may pass: there is no value if one was met, but
that is no issue. -/
def allowingBroken : Checked α → Checked (Option α)
  | .ok a => .ok (some a)
  | .error issues =>
    match issues.filter (·.kind ≠ .brokenText) with
    | [] => .ok none
    | others => .error others

end Checked

namespace Json

variable {α κ : Type}

/-- Checks that a value is a string. -/
def checkStr : Json → Checked Str
  | str s => .ok s
  | _ => Checked.fail .notText

/-- Checks that a string is a text. -/
def textOf : Str → Checked Text
  | .text t => .ok t
  | .half _ _ _ => Checked.fail .brokenText

/-- Checks that a value is a text. -/
def checkText : Json → Checked Text
  | str s => textOf s
  | _ => Checked.fail .notText

/-- The words for true and for false, in small letters. -/
def flagWords : List (Text × Bool) :=
  [("1", true), ("true", true), ("t", true), ("yes", true), ("y", true), ("on", true),
   ("0", false), ("false", false), ("f", false), ("no", false), ("n", false), ("off", false)]

/-- Where the integers of 64 bits with a sign end. -/
def wordLimit : Int := 9223372036854775808

/-- The truth value that an integer means, where integers below `least` or from `wordLimit`
on are of another type. -/
def checkFlagNumber (least n : Int) : Checked Bool :=
  if n = 0 then .ok false
  else if n = 1 then .ok true
  else if least ≤ n ∧ n < wordLimit then Checked.fail .unclearFlag
  else Checked.fail .notFlag

/-- Checks that a value is or means true or false.  A number with a point counts like its
integer, except that the least one of 64 bits is too small. -/
def checkFlag : Json → Checked Bool
  | bool b => .ok b
  | str (.text t) =>
    match flagWords.lookup (Text.lower t) with
    | some b => .ok b
    | none => Checked.fail .unclearFlag
  | str (.half _ _ _) => Checked.fail .unclearFlag
  | int n => checkFlagNumber (-wordLimit) n
  | float x =>
    match x.toInt? with
    | some n => checkFlagNumber (1 - wordLimit) n
    | none => Checked.fail .notFlag
  | _ => Checked.fail .notFlag

/-- Checks that a value is a label, which `ofLabel?` knows. -/
def checkLabel (ofLabel? : Text → Option α) : Json → Checked α
  | str (.text t) =>
    match ofLabel? t with
    | some a => .ok a
    | none => Checked.fail .unknownLabel
  | _ => Checked.fail .unknownLabel

/-- Checks that a value is a list and that every item passes. -/
def checkList (check : Json → Checked α) : Json → Checked (List α)
  | arr vs => Checked.items check 0 vs
  | _ => Checked.fail .notList

/-- Checks that a value is an object and that the name and the value of every member pass. -/
def checkMap [DecidableEq κ] (checkName : Str → Checked κ) (check : Json → Checked α) :
    Json → Checked (List (κ × α))
  | obj ms => (Checked.members checkName check ms).map Entries.ofPairs
  | _ => Checked.fail .notMap

/-- Checks a value unless it is null. -/
def checkNullable (check : Json → Checked α) : Json → Checked (Option α)
  | null => .ok none
  | v => (check v).map some

end Json

end BranchingStory
