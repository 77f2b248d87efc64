import BranchingStory.Text.Hex
import BranchingStory.Text.Split

/-!
# Addresses

The address of a request is a path with a query behind a question mark.  Escapes of a
percent sign and two hexadecimal digits stand for bytes of UTF-8, and bytes that are
malformed give replacement characters.  In a query a plus sign stands for a space.
-/

namespace BranchingStory

/-- Undoes escapes, where `s` is where the decoder of bytes stands. -/
def unescapeFrom : (s : Utf8.State) → Text → Text
  | s, [] => Utf8.mend (Utf8.finish s)
  | s, c :: t =>
    if c = '%' then
      match t with
      | a :: b :: rest =>
        match hexByte? a b with
        | some n =>
          let (out, s) := Utf8.feed s [n]
          out ++ unescapeFrom s rest
        | none => Utf8.mend (Utf8.finish s) ++ c :: unescapeFrom .start (a :: b :: rest)
      | rest => Utf8.mend (Utf8.finish s) ++ c :: unescapeFrom .start rest
    else Utf8.mend (Utf8.finish s) ++ c :: unescapeFrom .start t

/-- A text without escapes. -/
def unescape (t : Text) : Text :=
  unescapeFrom .start t

/-- The path of a request and the fields of its query, in order. -/
structure Address where
  path : Text
  query : List (Text × Text)
  deriving Repr, DecidableEq

namespace Address

/-- A text in which plus signs stand for spaces, without its escapes. -/
def unescapeField (t : Text) : Text :=
  unescape (t.map fun c => if c = '+' then ' ' else c)

/-- The fields of a query; one without an equals sign has an empty value. -/
def fields (query : Text) : List (Text × Text) :=
  ((Text.split '&' query).filter (!·.isEmpty)).map fun f =>
    let (name, value) := Text.cutFirst '=' f
    (unescapeField name, unescapeField value)

/-- The address that a text writes. -/
def ofText (t : Text) : Address :=
  let (path, query) := Text.cutFirst '?' t
  ⟨unescape path, fields query⟩

/-- The value of a field of the query, the last one when it is repeated. -/
def field? (a : Address) (name : Text) : Option Text :=
  (a.query.reverse.find? (·.1 == name)).map (·.2)

end Address

end BranchingStory
