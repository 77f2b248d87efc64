import BranchingStory.Text.Digit
import BranchingStory.Text.Quoted

/-!
# URLs

The parts of a URL and its text.  A URL that names a host and its scheme is absolute; the
others say where to go from another one.
-/

namespace BranchingStory

/-- A URL.  The host stands without brackets, and `number` is the one behind it. -/
structure Url where
  scheme : Text
  user : Text
  host : Text
  number : Option Int
  path : Text
  query : Option Text
  fragment : Option Text
  deriving Repr, DecidableEq

namespace Url

/-- Why a text is no URL. -/
inductive Fault where
  | tooLong
  /-- A control character stands at a position. -/
  | control (c : Char) (position : Nat)
  /-- A host looks like four numbers but is no address. -/
  | address4 (host : Text)
  /-- A host in brackets is no address. -/
  | address6 (host : Text)
  /-- A host that is not ASCII is no name. -/
  | hostName (host : Text)
  /-- The text behind a host is no number. -/
  | number (t : Text)
  /-- A path behind a host does not begin with a slash. -/
  | pathNotRooted
  /-- A path without a scheme and a host begins with two slashes. -/
  | doubleSlash
  /-- A path without a scheme and a host begins with a colon. -/
  | leadingColon
  deriving Repr, DecidableEq

/-- What a message says about a fault. -/
def Fault.message : Fault → Text
  | tooLong => "URL too long"
  | control c position =>
    ("Invalid non-printable ASCII character in URL, " : Text) ++ Text.quoted [c] ++ " at position "
      ++ decimalDigits position ++ "."
  | address4 host => ("Invalid IPv4 address: " : Text) ++ Text.quoted host
  | address6 host => ("Invalid IPv6 address: " : Text) ++ Text.quoted host
  | hostName host => ("Invalid IDNA hostname: " : Text) ++ Text.quoted host
  | number t => ("Invalid port: " : Text) ++ Text.quoted t
  | pathNotRooted => "For absolute URLs, path must be empty or begin with '/'"
  | doubleSlash => "Relative URLs cannot have a path starting with '//'"
  | leadingColon => "Relative URLs cannot have a path starting with ':'"

/-- The host with user and number. -/
def authority (u : Url) : Text :=
  (if u.user.isEmpty then [] else u.user ++ ['@'])
    ++ (if u.host.contains ':' then '[' :: u.host ++ [']'] else u.host)
    ++ (u.number.elim [] fun n => ':' :: decimalText n)

/-- The text of a query with its question mark. -/
def queryText (u : Url) : Text :=
  u.query.elim [] ('?' :: ·)

/-- The path and query that are asked for; an empty path is a slash. -/
def target (u : Url) : Text :=
  (if u.path.isEmpty then ['/'] else u.path) ++ u.queryText

/-- The text of a URL. -/
def toText (u : Url) : Text :=
  (if u.scheme.isEmpty then [] else u.scheme ++ [':'])
    ++ (if u.authority.isEmpty then [] else '/' :: '/' :: u.authority)
    ++ u.path ++ u.queryText ++ u.fragment.elim [] ('#' :: ·)

end Url

end BranchingStory
