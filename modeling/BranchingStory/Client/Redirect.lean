import BranchingStory.Url.Reader

/-!
# Redirections

A response may send a client on to another address.  The client does not follow, but it
reads the address, and one that makes no sense is worse than the redirection itself.
-/

namespace BranchingStory

namespace Client

/-- What may be wrong with an address to go on to. -/
inductive RedirectFault where
  /-- The text is no URL. -/
  | text (f : Url.Fault)
  /-- The URL cannot be told of the host that was asked. -/
  | host (f : Url.Fault)
  /-- A name of a host cannot be read. -/
  | name (f : Label.Fault)
  /-- A host cannot be told in ASCII. -/
  | notAscii
  deriving Repr, DecidableEq

/-- The statuses that send a client on. -/
def redirectStatuses : List Int := [301, 302, 303, 307, 308]

/-- Reads the name of a host. -/
def hostOf (u : Url) : Except RedirectFault Text :=
  u.readHost.mapError .name

/-- The URL to go on to with a host where it names a scheme only: that of the URL that was
asked. -/
def withAskedHost (asked u : Url) : Except RedirectFault Url := do
  if u.scheme.isEmpty then return u
  let _ ← hostOf u
  if !u.host.isEmpty then return u
  (u.withHost (← hostOf asked)).mapError .host

/-- Checks the address to go on to from a URL that was asked. -/
def checkLocation (asked : Url) (location : Text) : Except RedirectFault Unit := do
  let u ← (Url.ofText location).mapError .text
  let u ← withAskedHost asked u
  let next := if u.authority.isEmpty then { u with host := asked.host } else u
  let first := if u.scheme.isEmpty || u.scheme == asked.scheme then next else asked
  let _ ← hostOf first
  let _ ← hostOf asked
  let _ ← hostOf next
  if next.host.any fun c => 0x80 ≤ c.toNat then throw .notAscii

end Client

end BranchingStory
