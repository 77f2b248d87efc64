import BranchingStory.Text.Str

/-!
# Keys

A key names a folder or a file of the store.  It is made of letters, digits, hyphens and
underscores of ASCII only, so it never leads out of its folder.
-/

namespace BranchingStory

/-- A string that is no key, and what it was to name. -/
structure KeyFault where
  role : Text
  key : Str
  deriving Repr, DecidableEq

/-- What a message says about a string that is no key. -/
def KeyFault.message (f : KeyFault) : Text :=
  ("Invalid " : Text) ++ f.role ++ ": " ++ f.key.quoted

namespace Key

/-- The most characters a key may have. -/
def limit : Nat := 128

/-- Whether a character may be part of a key. -/
def admits (c : Char) : Bool :=
  c.isAlphanum || c == '_' || c == '-'

/-- Whether a text is a key. -/
def isKey (t : Text) : Bool :=
  !t.isEmpty && t.length ≤ limit && t.all admits

/-- What the key of a session names. -/
def sessionRole : Text := "user session"

/-- What the key of a conversation names. -/
def conversationRole : Text := "conversation id"

/-- The key that a text is. -/
def check (role key : Text) : Except KeyFault Text :=
  if isKey key then .ok key else .error ⟨role, key⟩

end Key

end BranchingStory
