import BranchingStory.Compression.Envelope
import BranchingStory.Text.Blank
import BranchingStory.Text.Case
import BranchingStory.Text.Split

/-!
# Content codings

The bytes of a body may be compressed, in one way after another, and arrive in pieces.
What each piece adds is told as soon as it can be.
-/

namespace BranchingStory

namespace Client

/-- What has arrived of compressed bytes: the bytes, how many bytes came out of them, and
whether they have ended, so that nothing counts that follows. -/
structure Unpacking where
  envelope : Envelope
  taken : Bytes
  given : Nat
  ended : Bool
  deriving Repr, DecidableEq

namespace Unpacking

/-- Nothing has arrived yet. -/
def start (e : Envelope) : Unpacking :=
  ⟨e, [], 0, false⟩

/-- What more bytes add, unless they make no sense. -/
def feed (u : Unpacking) (bs : Bytes) : Option (Bytes × Unpacking) :=
  if u.ended then some ([], u)
  else
    let taken := u.taken ++ bs
    let (out, stop) := u.envelope.unpack taken
    match stop with
    | .error .malformed => none
    | stop => some (out.toList.drop u.given, ⟨u.envelope, taken, out.size, stop.toBool⟩)

end Unpacking

/-- A way to send bytes, as far as it has been undone. -/
inductive Coding where
  | identity
  | gzip (u : Unpacking)
  /-- The envelope is forgotten by some senders; the first piece, while none has come, says
  whether it is. -/
  | deflate (fresh : Bool) (u : Unpacking)
  deriving Repr, DecidableEq

namespace Coding

/-- The coding of a name. -/
def ofName? (name : Text) : Option Coding :=
  if name = "identity" then some identity
  else if name = "gzip" then some (gzip (.start .filed))
  else if name = "deflate" then some (deflate true (.start .summed))
  else none

/-- What more bytes add, unless they make no sense. -/
def feed : Coding → Bytes → Option (Bytes × Coding)
  | identity, bs => some (bs, identity)
  | gzip u, bs => (u.feed bs).map fun r => (r.1, gzip r.2)
  | deflate fresh u, bs =>
    let again := if fresh then Unpacking.feed (.start .bare) bs else none
    ((u.feed bs).or again).map fun r => (r.1, deflate false r.2)

end Coding

/-- The codings of a body, the last one in front, where unknown names count for nothing;
headers may name several, between commas. -/
def codingsOf (headers : List (Text × Text)) : List Coding :=
  let named := (headers.filter fun h => Text.lower h.1 = "content-encoding").map (·.2)
  let names := (named.flatMap (Text.split ',')).map fun t => Text.lower (Text.trim t)
  (names.filterMap Coding.ofName?).reverse

/-- What more bytes add, with all codings undone one after another. -/
def undo : List Coding → Bytes → Option (Bytes × List Coding)
  | [], bs => some (bs, [])
  | c :: cs, bs => do
    let (bs, c) ← c.feed bs
    let (bs, cs) ← undo cs bs
    return (bs, c :: cs)

end Client

end BranchingStory
