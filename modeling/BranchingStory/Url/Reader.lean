import BranchingStory.Text.Numeral
import BranchingStory.Url.Basic
import BranchingStory.Url.Escape
import BranchingStory.Url.HostName
import BranchingStory.Url.Literal

/-!
# Reading URLs

A text is cut into the parts of a URL, and the parts are brought into their normal form:
scheme and host in small letters, names that are not ASCII as they are sent, the usual
number behind a host left out, no dots for parts of a path, and escapes for characters that
have no place in a URL.  A URL with another target is brought into normal form anew.
-/

namespace BranchingStory

namespace Url

/-- The parts of a URL as they are written. -/
structure Parts where
  scheme : Text
  authority : Text
  path : Text
  query : Option Text
  fragment : Option Text
  deriving Repr, DecidableEq

/-- The most characters of a URL and of each of its parts. -/
def lengthLimit : Nat := 65536

namespace Parts

/-- The scheme in front of a text and the text behind its colon; the scheme is empty when
there is none. -/
def takeScheme (t : Text) : Text × Text :=
  let (s, rest) := t.span fun c => c.isAlphanum || c = '+' || c = '.' || c = '-'
  match rest with
  | ':' :: rest => if s.head?.all Char.isAlpha then (s, rest) else ([], t)
  | _ => ([], t)

/-- The host behind two slashes, with user and number, and the text behind it. -/
def takeAuthority : Text → Text × Text
  | '/' :: '/' :: t => t.span fun c => !(c = '/' || c = '?' || c = '#')
  | t => ([], t)

/-- The text up to a mark and the text behind the mark, if it is there. -/
def cutAt (mark : Char) (t : Text) : Text × Option Text :=
  match t.span (· ≠ mark) with
  | (before, []) => (before, none)
  | (before, _ :: behind) => (before, some behind)

/-- The parts of a text. -/
def ofText (t : Text) : Parts :=
  let (scheme, rest) := takeScheme t
  let (authority, rest) := takeAuthority rest
  let (target, fragment) := cutAt '#' rest
  let (path, query) := cutAt '?' target
  { scheme, authority, path, query, fragment }

/-- Whether each part has a length that is allowed. -/
def fits (p : Parts) : Bool :=
  [p.scheme, p.authority, p.path, p.query.getD [], p.fragment.getD []].all
    (·.length ≤ lengthLimit)

end Parts

/-! ## Hosts -/

/-- The user in front of a host, without the at sign, and the text behind it. -/
def takeUser (authority : Text) : Text × Text :=
  if authority.contains '@' then
    let (behind, before) := authority.reverse.span (· ≠ '@')
    ((before.drop 1).reverse, behind.reverse)
  else ([], authority)

/-- The host in front of a number; one in brackets ends with the last bracket. -/
def takeHost (t : Text) : Text × Text :=
  if t.head? = some '[' ∧ t.contains ']' then
    let (behind, before) := t.reverse.span (· ≠ ']')
    (before.reverse, behind.reverse)
  else t.span (· ≠ ':')

/-- A host without the brackets around it, if they are there. -/
def unbracket? (host : Text) : Option Text :=
  if host.head? = some '[' ∧ host.getLast? = some ']' ∧ 2 ≤ host.length then
    some (host.drop 1).dropLast
  else none

/-- The normal form of a host. -/
def normalHost (host : Text) : Except Fault Text :=
  if Host.looksLikeAddress4 host then
    if Host.isAddress4 host then .ok host else .error (.address4 host)
  else
    match unbracket? host with
    | some address => if Host.isAddress6 address then .ok address else .error (.address6 host)
    | none =>
      if host.all (·.toNat < 0x80) then .ok (escape barredInHost (host.map Char.toLower))
      else
        match HostName.toSent (Text.lower host) with
        | .ok name => .ok name
        | .error _ => .error (.hostName host)

/-- The usual numbers behind the hosts of schemes. -/
def usualNumbers : List (Text × Int) :=
  [("ftp", 21), ("http", 80), ("https", 443), ("ws", 80), ("wss", 443)]

/-- The number that a text behind a host writes, perhaps with a colon in front; it is left
out when it is the usual one of the scheme. -/
def normalNumber (scheme t : Text) : Except Fault (Option Int) :=
  let digits := if t.head? = some ':' then t.drop 1 else t
  if digits.isEmpty then .ok none
  else
    match Numeral.read digits with
    | .ok n => .ok (if usualNumbers.lookup scheme = some n then none else some n)
    | .error _ => .error (.number digits)

/-! ## Paths -/

/-- A path in which a part of two dots takes away the part before it and one of a single
dot is left out. -/
def withoutDots (path : Text) : Text :=
  let parts := Text.split '/' path
  if parts.contains ['.'] || parts.contains ['.', '.'] then
    let kept := parts.foldl
      (fun (out : List Text) p =>
        if p = ['.'] then out
        else if p = ['.', '.'] then
          if out = [[]] then out else out.drop 1
        else p :: out)
      []
    List.intercalate ['/'] kept.reverse
  else path

/-- Checks how a path begins. -/
def checkPath (hasScheme hasAuthority : Bool) (path : Text) : Except Fault Unit :=
  if hasAuthority then
    if path.isEmpty || path.head? == some '/' then .ok () else .error .pathNotRooted
  else if hasScheme then .ok ()
  else if ['/', '/'].isPrefixOf path then .error .doubleSlash
  else if path.head? == some ':' then .error .leadingColon
  else .ok ()

/-! ## Whole URLs -/

/-- The URL of parts, on a given host if there is one. -/
def ofParts (p : Parts) (otherHost : Option Text) : Except Fault Url := do
  let (user, rest) := takeUser p.authority
  let (host, behindHost) := takeHost rest
  let user := escape barredInUser user
  let host ← normalHost (otherHost.getD host)
  let number ← normalNumber p.scheme behindHost
  let hasScheme := !p.scheme.isEmpty
  let hasAuthority := !user.isEmpty || !host.isEmpty || number.isSome
  checkPath hasScheme hasAuthority p.path
  return {
    scheme := p.scheme.map Char.toLower
    user := user
    host := host
    number := number
    path := escape barredInPath
      (if hasScheme || hasAuthority then withoutDots p.path else p.path)
    query := p.query.map (escape barredInQuery)
    fragment := p.fragment.map (escape barredInFragment) }

/-- Whether a character is a control character of ASCII. -/
def isControl (c : Char) : Bool :=
  c.toNat < 0x20 || c.toNat == 0x7F

/-- The URL that a text writes. -/
def ofText (t : Text) : Except Fault Url :=
  if lengthLimit < t.length then .error .tooLong
  else
    match t.dropWhile (!isControl ·) with
    | c :: rest => .error (.control c (t.length - rest.length - 1))
    | [] => ofParts (Parts.ofText t) none

/-- The parts of a URL. -/
def parts (u : Url) : Parts where
  scheme := u.scheme
  authority := u.authority
  path := u.path
  query := u.query
  fragment := u.fragment

/-- A URL of parts that come from another one. -/
def again (p : Parts) (otherHost : Option Text) : Except Fault Url :=
  if p.fits then ofParts p otherHost else .error .tooLong

/-- A URL with another path and query. -/
def withTarget (u : Url) (target : Text) : Except Fault Url :=
  let (path, query) := Parts.cutAt '?' target
  again { u.parts with path, query } none

/-- A URL on another host, in brackets when it holds colons. -/
def withHost (u : Url) (host : Text) : Except Fault Url :=
  again u.parts (some (if host.contains ':' then '[' :: host ++ [']'] else host))

/-- A URL whose target ends in a slash. -/
def asFolder (u : Url) : Except Fault Url :=
  if u.target.getLast? = some '/' then .ok u else u.withTarget (u.target ++ ['/'])

/-- The URL of a path below one that ends in a slash, whose query the path goes on with if
there is one. -/
def below (u : Url) (path : Text) : Except Fault Url :=
  u.withTarget (u.target ++ path.dropWhile (· = '/'))

/-! ## Uses -/

/-- Whether the text of a URL names a kind of address: something in front of a colon and any
slash. -/
def namesKind (t : Text) : Bool :=
  let (kind, rest) := t.span fun c => !(c = '/' || c = ':')
  !kind.isEmpty && rest.head? == some ':'

/-- The host as people read it. -/
def readHost (u : Url) : Except Label.Fault Text :=
  if Label.mark.isPrefixOf u.host then HostName.ofSent u.host else .ok u.host

end Url

end BranchingStory
