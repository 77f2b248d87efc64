import BranchingStory.Json.Basic
import BranchingStory.Text.Digit
import BranchingStory.Text.Hex

/-!
# Reading JSON

`Json.read` reads a text as one JSON value.  It also takes the words `NaN`, `Infinity`
and `-Infinity`.  A text that is no JSON is refused with the offset at which reading
stopped: the place where a value, a name or a separator was expected, the opening quote
of a string without an end, or the faulty character or escape inside a string.  An
integer of more than 4300 digits is refused without an offset, and so are arrays and
objects that lie too deep inside one another.  The escape of half a surrogate pair that
stands alone is read or refused, as the limits say.
-/

namespace BranchingStory

namespace Json

/-- Why a text is not read. -/
inductive ReadFault where
  /-- The text is not JSON from the character of this offset on. -/
  | malformed (offset : Nat)
  /-- An integer has too many digits. -/
  | integerTooLong (digits : Nat)
  /-- Too many arrays and objects lie inside one another. -/
  | tooDeep
  deriving Repr, DecidableEq

/-- The room for a value that is read or written: how many arrays and objects may lie inside
one another.  It is what the stack of calls leaves at that place; for the values that the
program itself makes there is always enough. -/
structure Room where
  depth : Nat
  isEnough : 8 ≤ depth
  deriving Repr, DecidableEq

/-- The least room. -/
def Room.least : Room := ⟨8, Nat.le_refl 8⟩

/-- What bounds the texts that are read. -/
structure Limits where
  /-- How many arrays and objects may lie inside one another. -/
  depth : Nat
  /-- Whether the digits in front of a point or an exponent count like those of an integer. -/
  countsAllNumbers : Bool
  /-- Whether half of a surrogate pair may stand alone in a string. -/
  keepsHalves : Bool
  deriving Repr, DecidableEq

/-- The limits of texts that are read by themselves. -/
def Limits.ofRoom (room : Room) : Limits := ⟨room.depth, false, true⟩

namespace Reader

/-- Why reading stops: `left` characters before the end, or at a number or an array or
object beyond the limits. -/
inductive Stop where
  | malformed (left : Nat)
  | integerTooLong (digits : Nat)
  | tooDeep

/-- A value read and the rest of the text. -/
abbrev Result (α : Type) := Except Stop (α × Text)

/-- Reading stops at the front of `t`. -/
def stopAt {α : Type} (t : Text) : Result α :=
  .error (.malformed t.length)

/-- The most digits an integer may have. -/
def integerLimit : Nat := 4300

/-- Whether a character may stand between the tokens of JSON. -/
def isGap (c : Char) : Bool :=
  c = ' ' || c = '\t' || c = '\n' || c = '\r'

/-- The text without leading gaps. -/
def skipGap (t : Text) : Text :=
  t.dropWhile isGap

/-! ## Strings -/

/-- The value of four hexadecimal digits. -/
def hexValue4? (a b c d : Char) : Option Nat := do
  let a ← hexValue? a
  let b ← hexValue? b
  let c ← hexValue? c
  let d ← hexValue? d
  return ((a * 16 + b) * 16 + c) * 16 + d

/-- The character of a one-letter escape. -/
def escaped? (c : Char) : Option Char :=
  if c = '"' || c = '\\' || c = '/' then some c
  else if c = 'b' then some (Char.ofNat 8)
  else if c = 'f' then some (Char.ofNat 12)
  else if c = 'n' then some '\n'
  else if c = 'r' then some '\r'
  else if c = 't' then some '\t'
  else none

/-- Puts a character in front of the string read. -/
def prepend (c : Char) : Result Str → Result Str
  | .ok (s, rest) => .ok (s.cons c, rest)
  | .error e => .error e

/-- Puts a half, whose escape stands at `t`, in front of the string read, if halves may stand
alone. -/
def prependHalf (limits : Limits) (t : Text) (h : Half) : Result Str → Result Str
  | .ok (s, rest) => if limits.keepsHalves then .ok (s.consHalf h, rest) else stopAt t
  | .error e => if limits.keepsHalves then .error e else stopAt t

/-- The value of four hexadecimal digits that more follows, and what follows. -/
def takeUnit? : Text → Option (Nat × Text)
  | a :: b :: c :: d :: e :: rest => (hexValue4? a b c d).map fun n => (n, e :: rest)
  | _ => none

/-- Less is left behind four digits. -/
theorem takeUnit?_length {t rest : Text} {n : Nat} (h : takeUnit? t = some (n, rest)) :
  rest.length < t.length
  := by
  unfold takeUnit? at h
  split at h
  · obtain ⟨_, -, he⟩ := Option.map_eq_some_iff.mp h
    rw [← (Prod.mk.inj he).2]
    simp only [List.length_cons]
    omega
  · simp at h

/-- What follows a backslash and a `u`. -/
def behindEscape? : Text → Option Text
  | '\\' :: 'u' :: t => some t
  | _ => none

theorem behindEscape?_length {t rest : Text} (h : behindEscape? t = some rest) :
  rest.length < t.length
  := by
  unfold behindEscape? at h
  split at h
  · simp only [Option.some.injEq] at h
    simp only [← h, List.length_cons]
    omega
  · simp at h

/-- What follows the escape of a half. -/
inductive Follower where
  /-- Nothing that makes a pair with it. -/
  | none
  /-- The escape of the second half of its pair, and then `rest`. -/
  | second (h : Half) (rest : Text)
  /-- An escape that is none, at `t`. -/
  | faulty (t : Text)

/-- What follows the escape of a half in front of `rest`. -/
def follower (first : Half) (rest : Text) : Follower :=
  match if first.isFirst then behindEscape? rest else .none with
  | .none => .none
  | some t =>
    match takeUnit? t with
    | .none => .faulty ('u' :: t)
    | some (n, rest) =>
      match Half.ofCode? n with
      | some h => if h.isFirst then .none else .second h rest
      | .none => .none

/-- Less is left behind the second half of a pair. -/
theorem follower_second_length {first h : Half} {t rest : Text}
  (hs : follower first t = .second h rest) :
  rest.length < t.length
  := by
  unfold follower at hs
  split at hs
  · simp at hs
  · rename_i t' ht
    have ht : behindEscape? t = some t' := by
      cases hfirst : first.isFirst <;> simp_all
    split at hs
    · simp at hs
    · rename_i n rest' hn
      have h₁ := behindEscape?_length ht
      have h₂ := takeUnit?_length hn
      split at hs
      · split at hs
        · simp at hs
        · obtain ⟨-, rfl⟩ := Follower.second.inj hs
          omega
      · simp at hs

/-- Reads the rest of a string whose first character stands at the front of `start`. -/
def string (limits : Limits) (start : Text) : Text → Result Str
  | [] => stopAt ('"' :: start)
  | '"' :: rest => .ok (.text [], rest)
  | '\\' :: 'u' :: t =>
    match _hn : takeUnit? t with
    | none => stopAt ('u' :: t)
    | some (n, rest) =>
      match Half.ofCode? n with
      | none => prepend (Char.ofNat n) (string limits start rest)
      | some h =>
        match _hs : follower h rest with
        | .none => prependHalf limits ('u' :: t) h (string limits start rest)
        | .second h' rest => prepend (h.join h') (string limits start rest)
        | .faulty t => stopAt t
  | '\\' :: [] => stopAt ('"' :: start)
  | '\\' :: c :: rest =>
    match escaped? c with
    | some e => prepend e (string limits start rest)
    | none => stopAt ('\\' :: c :: rest)
  | c :: rest =>
    if c.toNat < 32 then stopAt (c :: rest) else prepend c (string limits start rest)
termination_by t => t.length
decreasing_by
  all_goals simp only [List.length_cons]
  · have := takeUnit?_length _hn
    omega
  · have := takeUnit?_length _hn
    omega
  · have h₁ := takeUnit?_length _hn
    have h₂ := follower_second_length _hs
    omega
  · omega
  · omega

/-! ## Numbers -/

/-- The digits at the front of a text and the rest. -/
def takeDigits : Text → List Nat × Text
  | [] => ([], [])
  | c :: t =>
    match asciiDigit? c with
    | some d =>
      let (ds, rest) := takeDigits t
      (d :: ds, rest)
    | none => ([], c :: t)

/-- The digits of a fraction, when a point and a digit come next. -/
def takeFraction : Text → Option (List Nat × Text)
  | '.' :: t =>
    match takeDigits t with
    | ([], _) => none
    | (ds, rest) => some (ds, rest)
  | _ => none

/-- An exponent, when the mark, perhaps a sign, and a digit come next. -/
def takeExponent : Text → Option (Int × Text)
  | c :: t =>
    if c = 'e' || c = 'E' then
      let (negative, body) :=
        match t with
        | '-' :: u => (true, u)
        | '+' :: u => (false, u)
        | u => (false, u)
      match takeDigits body with
      | ([], _) => none
      | (ds, rest) => some (if negative then -(ofDigits ds : Int) else ofDigits ds, rest)
    else none
  | [] => none

/-- The digits before the point: a zero, or digits that begin with another one. -/
def takeWhole (t : Text) : Option (List Nat × Text) :=
  match takeDigits t with
  | ([], _) => none
  | (0 :: _, _) => some ([0], t.drop 1)
  | (ds, rest) => some (ds, rest)

/-- Reads a number whose sign, if it has one, stands at the front of `start`. -/
def number (limits : Limits) (start : Text) : Result Json :=
  let (negative, body) :=
    match start with
    | '-' :: t => (true, t)
    | t => (false, t)
  match takeWhole body with
  | none => stopAt start
  | some (whole, rest) =>
    match takeFraction rest, takeExponent ((takeFraction rest).elim rest (·.2)) with
    | none, none =>
      if integerLimit < whole.length then .error (.integerTooLong whole.length)
      else .ok (.int (if negative then -(ofDigits whole : Int) else ofDigits whole), rest)
    | fraction, exponent =>
      if limits.countsAllNumbers && integerLimit < whole.length then
        .error (.integerTooLong whole.length)
      else
        let ds := (fraction.elim [] (·.1))
        let scale : Int := (exponent.elim 0 (·.1)) - ds.length
        let rest := exponent.elim (fraction.elim rest (·.2)) (·.2)
        .ok (.float (.ofDecimal negative (ofDigits (whole ++ ds)) scale), rest)

/-! ## Values -/

/-- Reads one of the words of JSON. -/
def word? (t : Text) : Option (Json × Text) :=
  let words : List (Text × Json) :=
    [("null", .null), ("true", .bool true), ("false", .bool false), ("NaN", .float .nan),
     ("Infinity", .float (.infinite false)), ("-Infinity", .float (.infinite true))]
  words.findSome? fun w => (Text.after? w.1 t).map fun rest => (w.2, rest)

/-- Reads a value that is neither a string nor an array nor an object. -/
def scalar (limits : Limits) (t : Text) : Result Json :=
  match word? t with
  | some (v, rest) => .ok (v, rest)
  | none => number limits t

mutual

/-- Reads the value at the front of a text; `room` is how many more arrays and objects may
lie inside one another, and `fuel` bounds the number of steps. -/
def value (limits : Limits) : (fuel room : Nat) → Text → Result Json
  | 0, _, t => stopAt t
  | fuel + 1, room, t =>
    match t with
    | '"' :: rest =>
      match string limits rest rest with
      | .ok (s, rest) => .ok (.str s, rest)
      | .error e => .error e
    | '[' :: rest =>
      match room with
      | 0 => .error .tooDeep
      | room + 1 =>
        match skipGap rest with
        | ']' :: rest => .ok (.arr [], rest)
        | rest =>
          match items limits fuel room rest with
          | .ok (vs, rest) => .ok (.arr vs, rest)
          | .error e => .error e
    | '\x7b' :: rest =>
      match room with
      | 0 => .error .tooDeep
      | room + 1 =>
        match skipGap rest with
        | '\x7d' :: rest => .ok (.obj [], rest)
        | rest =>
          match members limits fuel room rest with
          | .ok (ms, rest) => .ok (.obj ms, rest)
          | .error e => .error e
    | t => scalar limits t

/-- Reads the items of an array from the first one to the closing bracket. -/
def items (limits : Limits) : (fuel room : Nat) → Text → Result (List Json)
  | 0, _, t => stopAt t
  | fuel + 1, room, t =>
    match value limits fuel room t with
    | .error e => .error e
    | .ok (v, rest) =>
      match skipGap rest with
      | ']' :: rest => .ok ([v], rest)
      | ',' :: rest =>
        match items limits fuel room (skipGap rest) with
        | .ok (vs, rest) => .ok (v :: vs, rest)
        | .error e => .error e
      | rest => stopAt rest

/-- Reads the members of an object from the first one to the closing brace. -/
def members (limits : Limits) : (fuel room : Nat) → Text → Result (List (Str × Json))
  | 0, _, t => stopAt t
  | fuel + 1, room, t =>
    match t with
    | '"' :: rest =>
      match string limits rest rest with
      | .error e => .error e
      | .ok (name, rest) =>
        match skipGap rest with
        | ':' :: rest =>
          match value limits fuel room (skipGap rest) with
          | .error e => .error e
          | .ok (v, rest) =>
            match skipGap rest with
            | '\x7d' :: rest => .ok ([(name, v)], rest)
            | ',' :: rest =>
              match members limits fuel room (skipGap rest) with
              | .ok (ms, rest) => .ok ((name, v) :: ms, rest)
              | .error e => .error e
            | rest => stopAt rest
        | rest => stopAt rest
    | t => stopAt t

end

/-- Reads one value with gaps around it. -/
def document (limits : Limits) (t : Text) : Except Stop Json :=
  match value limits (t.length + 2) limits.depth (skipGap t) with
  | .error e => .error e
  | .ok (v, rest) =>
    match skipGap rest with
    | [] => .ok v
    | rest => .error (.malformed rest.length)

end Reader

/-- Reads a text as one JSON value, with the members of objects as they are written. -/
def readWithin (limits : Limits) (t : Text) : Except ReadFault Json :=
  match Reader.document limits t with
  | .ok v => .ok v
  | .error (.malformed left) => .error (.malformed (t.length - left))
  | .error (.integerTooLong digits) => .error (.integerTooLong digits)
  | .error .tooDeep => .error .tooDeep

/-- Reads a text as one JSON value in a room. -/
def read (room : Room) (t : Text) : Except ReadFault Json :=
  readWithin (.ofRoom room) t

/-- Reads a text as one JSON value whose objects have each member once. -/
def readMerged (room : Room) (t : Text) : Except ReadFault Json :=
  (read room t).map merged

end Json

end BranchingStory
