import BranchingStory.Store.Archive
import BranchingStory.Store.Settings
import BranchingStory.Store.Title

/-!
# The store

A store is a disk with the conversations and the settings, the opening of the story, and
the supply of time stamps and ids.  Its operations may fail; what a failed operation did
before stays done.
-/

namespace BranchingStory

/-- The file with the opening of the story. -/
inductive Opening where
  /-- There is no such file. -/
  | absent
  /-- The file does not hold a text. -/
  | notText
  | text (t : Text)
  deriving Repr, DecidableEq

/-- Why there is no opening. -/
inductive Opening.Fault where
  | absent
  | notText
  deriving Repr, DecidableEq

/-- The text of the opening, with its newlines unified. -/
def Opening.read : Opening → Except Opening.Fault Text
  | absent => .error .absent
  | notText => .error .notText
  | text t => .ok (Text.unifyNewlines t)

/-- What a store is supplied with: time stamps and ids, the one that is asked for as the
`n`th, counted from one, and the rooms in which settings are read and written. -/
structure Supply where
  stamp : Nat → Text
  id : Nat → Text
  reading : Json.Room := .least
  writing : Json.Room := .least

/-- The decimal text of `n` with at least `width` digits. -/
def paddedDigits (width n : Nat) : Text :=
  let ds := decimalDigits n
  List.replicate (width - ds.length) '0' ++ ds

/-- The supply that counts. -/
def Supply.counting : Supply where
  stamp n := 't' :: paddedDigits 6 n
  id n := ("00000000-0000-0000-0000-" : Text) ++ hexText 12 n

/-- The disk, the file with the opening and the opening as it was read first, the supply,
and how many stamps and ids it gave out. -/
structure Store where
  disk : Disk
  opening : Opening
  remembered : Option Text
  supply : Supply
  stamps : Nat
  ids : Nat

namespace Store

/-- Why an operation fails. -/
inductive Fault where
  | archive (f : Archive.Fault)
  | settings (f : Settings.Fault)
  | disk (f : Disk.Fault)
  | opening (f : Opening.Fault)
  /-- A value is no number of segments. -/
  | count
  deriving Repr, DecidableEq

/-- An operation on a store. -/
abbrev Action (α : Type) := ExceptT Fault (StateM Store) α

/-- An outcome that does not depend on the store any more. -/
def settle {ε α : Type} (wrap : ε → Fault) : Except ε α → Action α
  | .ok a => pure a
  | .error e => throw (wrap e)

/-- A store on an empty disk. -/
def new (opening : Opening) (supply : Supply) : Store :=
  ⟨⟨[], [Archive.root]⟩, opening, none, supply, 0, 0⟩

/-- Opens the store anew: the folder of sessions is there, and no opening is
remembered. -/
def reopen : Action Unit := do
  let s ← get
  let d ← settle .disk (s.disk.makeFolder Archive.root)
  set { s with disk := d, remembered := none }

/-- The next time stamp. -/
def nextStamp : Action Text :=
  modifyGet fun s => (s.supply.stamp (s.stamps + 1), { s with stamps := s.stamps + 1 })

/-- The next id. -/
def nextId : Action Text :=
  modifyGet fun s => (s.supply.id (s.ids + 1), { s with ids := s.ids + 1 })

/-! ## The opening -/

/-- The opening of the story; once it was read it is remembered. -/
def openingText : Action Text := do
  let s ← get
  match s.remembered with
  | some t => return t
  | none =>
    let t ← settle .opening s.opening.read
    set { s with remembered := some t }
    return t

/-! ## Settings -/

/-- The file with the settings. -/
def settingsPath : Path := ["config.json"]

/-- The settings. -/
def settings : Action Settings := do
  let s ← get
  if s.disk.hasFile settingsPath then
    let t ← settle .disk (s.disk.read settingsPath)
    settle .settings (Settings.read s.supply.reading t)
  else
    return Settings.defaults

/-- Changes settings and stores them all. -/
def changeSettings (fields : Json) : Action Settings := do
  let changed ← settle .settings ((← settings).change fields)
  let s ← get
  let t ← settle .settings (changed.write s.supply.writing)
  let d ← settle .disk (s.disk.write settingsPath t)
  set { s with disk := d }
  return changed

/-! ## Conversations -/

/-- Stores a conversation. -/
def save (c : Conversation) : Action Unit := do
  let s ← get
  let d ← settle .archive (Archive.save s.disk c)
  set { s with disk := d }

/-- What storing a conversation of a session comes to when it holds strings that are no texts:
its folder is made, and then it fails. -/
def saveBroken {α : Type} (session id : Text) : Action α := do
  let p ← settle (.archive ∘ .key) (Archive.path session id)
  let s ← get
  let d ← settle (.archive ∘ .disk) (s.disk.makeFolder p.dropLast)
  set { s with disk := d }
  throw (.archive .brokenText)

/-- Creates a conversation; without a title, or with an empty one, it is named after its
prompt. -/
def create (session prompt : Text) (title : Option Text) : Action Conversation := do
  let now ← nextStamp
  let id ← nextId
  let session ← settle (.archive ∘ .key) (Key.check Key.sessionRole session)
  let title := title.getD []
  let c := Conversation.new id (if title.isEmpty then Title.ofPrompt prompt else title) prompt
    session now
  save c
  return c

/-- What creating a conversation comes to when its prompt or its title is no text. -/
def createBroken {α : Type} (session : Text) : Action α := do
  let _ ← nextStamp
  let id ← nextId
  let session ← settle (.archive ∘ .key) (Key.check Key.sessionRole session)
  saveBroken session id

/-- The conversation of a session with an id. -/
def find? (session id : Text) : Action (Option Conversation) := do
  settle .archive (Archive.find? (← get).disk session id)

/-- The conversations of a session, those updated last first. -/
def all (session : Text) : Action (List Conversation) := do
  settle .archive (Archive.all (← get).disk session)

/-- Enters a step into a conversation, if it is there. -/
def revise? (session id : Text) (r : Revision) : Action (Option Conversation) := do
  match ← find? session id with
  | none => return none
  | some c =>
    let c := c.revise r (← nextStamp)
    save c
    return some c

/-- What entering a step into a conversation comes to when the step holds strings that are no
texts. -/
def reviseBroken? {α : Type} (session id : Text) : Action (Option α) := do
  match ← find? session id with
  | none => return none
  | some c =>
    let _ ← nextStamp
    saveBroken c.session c.id

/-- Deletes a conversation and says whether it was there. -/
def delete (session id : Text) : Action Bool := do
  let s ← get
  match ← settle .archive (Archive.remove? s.disk session id) with
  | none => return false
  | some d =>
    set { s with disk := d }
    return true

/-- Deletes conversations of a session and counts those that were there. -/
def deleteAll (session : Text) : List Conversation → Action Nat
  | [] => return 0
  | c :: cs => do
    let here ← delete session c.id
    let rest ← deleteAll session cs
    return rest + here.toNat

/-- Deletes every conversation of a session. -/
def clear (session : Text) : Action Nat := do
  deleteAll session (← all session)

/-- The last `n` segments of a conversation, none when it is not there. -/
def context (session id : Text) (n : Int) : Action (List Segment) := do
  return ((← find? session id).map fun c => c.lastSegments n).getD []

/-- The JSON form of a session's conversations. -/
def exportJson (session : Text) (cs : List Conversation) : Json :=
  .obj [("user_session", .str session), ("conversations", Record.listToJson cs)]

/-- All conversations of a session as one text. -/
def exportText (session : Text) : Action Text := do
  return Json.write .indented (exportJson session (← all session))

end Store

end BranchingStory
