import BranchingStory.Charset.Decoder
import BranchingStory.Charset.Name
import BranchingStory.Text.Case
import BranchingStory.Text.Numeral
import BranchingStory.Text.Order
import BranchingStory.Text.Split

/-!
# Parameters of a content type

A content type is a list of parameters between semicolons, of which the first one is
usually the bare name of the type.  A parameter may be told in parts, whose numbers stand
behind stars; a part whose name ends in a star is written with percent signs, and then the
whole value may tell its own charset.  `ContentType.charsetName` is the charset that a
content type names.
-/

namespace BranchingStory

namespace ContentType

/-- Why a content type cannot be read. -/
inductive Fault where
  /-- Parts of one parameter have numbers and others have none. -/
  | someNumbered
  /-- The number of a part is too long. -/
  | number (f : Numeral.Fault)
  /-- The name of a charset holds the null character. -/
  | nullInName
  deriving Repr, DecidableEq

/-- What a message says about a fault. -/
def Fault.message : Fault → Text
  | someNumbered => "parts with numbers and without"
  | number f => f.message
  | nullInName => "embedded null character"

/-! ## Pieces -/

/-- The pieces of a text between semicolons outside quotation marks, from a place on that
is between quotation marks or not and behind a backslash or not.  A quotation mark right
behind a backslash is none. -/
def pieces : (quoted escaped : Bool) → Text → List Text
  | _, _, [] => [[]]
  | quoted, escaped, c :: t =>
    let quoted := if c = '"' && !escaped then !quoted else quoted
    match pieces quoted (c = '\\') t with
    | [] => [[c]]
    | p :: ps => if c = ';' && !quoted then [] :: p :: ps else (c :: p) :: ps

/-- A parameter as it is written. -/
structure Parameter where
  name : Text
  value : Text
  deriving Repr, DecidableEq

/-- The parameter of a piece: what stands before the first equals sign, in small letters,
and what stands behind it. -/
def parameterOf (piece : Text) : Parameter :=
  if piece.contains '=' then
    let (name, value) := Text.cutFirst '=' piece
    ⟨Text.lower (Text.trim name), Text.trim value⟩
  else ⟨Text.trim piece, []⟩

/-- A text in which backslashes in front of `c` are dropped. -/
def dropBackslashes (c : Char) : Text → Text
  | a :: b :: t =>
    if a = '\\' ∧ b = c then c :: dropBackslashes c t else a :: dropBackslashes c (b :: t)
  | t => t

/-- A text without the quotation marks or angle brackets around it. -/
def unquote (t : Text) : Text :=
  if t.length < 2 then t
  else if t.head? = some '"' ∧ t.getLast? = some '"' then
    dropBackslashes '"' (dropBackslashes '\\' (t.drop 1).dropLast)
  else if t.head? = some '<' ∧ t.getLast? = some '>' then (t.drop 1).dropLast
  else t

/-! ## Parts -/

/-- A part of a parameter; `escaped` is whether it is written with percent signs. -/
structure Part where
  number : Option Nat
  value : Text
  escaped : Bool
  deriving Repr, DecidableEq

/-- Whether a part stands before another or beside it. -/
def Part.isAtMost (a b : Part) : Bool :=
  if a.number = b.number then
    if a.value = b.value then !a.escaped || b.escaped else Text.isAtMost a.value b.value
  else a.number.getD 0 < b.number.getD 0

/-- Whether a character may stand in the name of a parameter that is told in parts. -/
def isNameChar (c : Char) : Bool :=
  c.isAlphanum || c = '_'

/-- What a name says of a part: the name of the parameter, and the digits of the number
behind the star. -/
def partName? (name : Text) : Option (Text × Option Text) :=
  match name.span isNameChar with
  | ([], _) => none
  | (name, '*' :: digits) =>
    match digits.span Char.isDigit with
    | ([], []) => some (name, none)
    | ([], _) => none
    | (digits, rest) => if rest.isEmpty ∨ rest = ['*'] then some (name, some digits) else none
  | _ => none

/-- The number that digits write. -/
def numberOf (digits : Text) : Except Fault Nat :=
  match Numeral.read digits with
  | .ok n => .ok n.toNat
  | .error f => .error (.number f)

/-- The parts of parameters, each with the name of its parameter. -/
def partsOf : List Parameter → Except Fault (List (Text × Part))
  | [] => .ok []
  | p :: ps =>
    match partName? p.name with
    | none => partsOf ps
    | some (name, digits) => do
      let number ← digits.mapM numberOf
      let parts ← partsOf ps
      return (name, ⟨number, unquote p.value, p.name.getLast? = some '*'⟩) :: parts

/-- A text with characters for the codes behind percent signs. -/
def unescape : Text → Text
  | '%' :: a :: b :: t =>
    match hexByte? a b with
    | some n => Char.ofNat n.toNat :: unescape t
    | none => '%' :: unescape (a :: b :: t)
  | c :: t => c :: unescape t
  | [] => []

/-- A value: a text, or one that may tell the name of its charset. -/
inductive Value where
  | text (t : Text)
  | encoded (charset t : Text)
  deriving Repr, DecidableEq

/-- The value of a text that begins with the name of a charset and that of a language, each
before an apostrophe, if there are two. -/
def encodedValue (t : Text) : Value :=
  match Text.split '\'' t with
  | charset :: _ :: rest :: more => .encoded charset (List.intercalate ['\''] (rest :: more))
  | _ => .encoded [] t

/-- The value of the parts of a parameter. -/
def joinParts (parts : List Part) : Except Fault Value :=
  if parts.any (·.number.isNone) && parts.any (·.number.isSome) then .error .someNumbered
  else
    let t := (parts.mergeSort Part.isAtMost).flatMap fun p =>
      if p.escaped then unescape p.value else p.value
    .ok (if parts.any Part.escaped then encodedValue t else .text t)

/-- The parameters that are told in parts, in the order of their first parts. -/
def joinAll (parts : List (Text × Part)) : Except Fault (List (Text × Value)) :=
  (parts.map (·.1)).eraseDups.mapM fun name => do
    return (name, ← joinParts ((parts.filter (·.1 = name)).map (·.2)))

/-- All parameters of a content type: those that are told at once, and behind them those
that are told in parts.  The first parameter is never a part. -/
def parameters (contentType : Text) : Except Fault (List (Text × Value)) := do
  let all := (pieces false false contentType).map parameterOf
  let first := all.take 1
  let parts ← joinAll (← partsOf (all.drop 1))
  let others := (all.drop 1).filter fun p => (partName? p.name).isNone
  return (first ++ others).map (fun p => (p.name, .text (unquote p.value))) ++ parts

/-! ## The charset -/

/-- Whether a text is in ASCII. -/
def isAscii (t : Text) : Bool :=
  t.all (·.toNat < 0x80)

/-- The charset of a name, where the null character is in no name. -/
def lookUp (name : Text) : Except Fault (Option Charset) :=
  if name.contains '\x00' then .error .nullInName else .ok (Charset.ofName? name)

/-- The text that a value tells: the text itself, unless it can be decoded. -/
def Value.read : Value → Except Fault Text
  | text t => .ok t
  | encoded charset t => do
    let charset ← lookUp (if charset.isEmpty then "us-ascii" else charset)
    return (charset.bind (·.decode? (t.map fun c => UInt8.ofNat c.toNat))).getD t

/-- The name of the charset that a content type gives. -/
def charsetName (contentType : Text) : Except Fault (Option Text) := do
  let found := (← parameters contentType).find? fun p => Text.lower p.1 = "charset"
  let name ← found.mapM fun p => p.2.read
  return (name.filter isAscii).map Text.lower

/-- The charset of a body whose content type may be missing: UTF-8 unless another one is
named that is known. -/
def charset (contentType : Option Text) : Except Fault Charset := do
  let some t := contentType | return .utf8
  let some name ← charsetName t | return .utf8
  return (← lookUp name).getD .utf8

end ContentType

end BranchingStory
