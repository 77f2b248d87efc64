import BranchingStory.Json.Excess
import BranchingStory.Markup.TailLimit

/-!
# Settings

The settings of the program: how little text may be left for default choices, the size
of the pieces in which fragments are sent, the pause behind each character on a terminal,
and the audio settings by name.  Their values are JSON values of any kind.  Stored values
stand before the defaults; changes are made for known names only.
-/

namespace BranchingStory

/-- The settings. -/
structure Settings where
  tailLimit : Json
  chunkSize : Json
  delay : Json
  audio : List (Str × Json)
  deriving Repr

namespace Settings

/-- Why there are no settings. -/
inductive Fault where
  /-- The stored text is no JSON. -/
  | malformed
  /-- An integer has too many digits to be stored or to be read. -/
  | integerTooLong (digits : Nat)
  /-- Too much lies inside one another to be stored or to be read. -/
  | tooDeep
  /-- A number, a truth value or null cannot be searched for names, and a name is no place
  in a text or a list. -/
  | notSearchable
  /-- A text or a list without known names has no members. -/
  | noMembers
  deriving Repr, DecidableEq

/-- The fault of a text that is not read or of a value that is not written. -/
def Fault.ofJson : Json.ReadFault → Fault
  | .malformed _ => malformed
  | .integerTooLong digits => integerTooLong digits
  | .tooDeep => tooDeep

/-- The settings when nothing is stored. -/
def defaults : Settings where
  tailLimit := .int 50
  chunkSize := .int 0
  delay := .int 30
  audio :=
    [("sound_enabled", .bool true), ("music_enabled", .bool true),
     ("music_volume", .float (.ofRatio false 1 2))]

/-- The names of the settings apart from audio. -/
def names : List Text := ["fallback_tail_limit", "stream_chunk_size", "typewriter_delay_ms"]

/-- The JSON form of settings. -/
def toJson (s : Settings) : Json :=
  .obj [("fallback_tail_limit", s.tailLimit), ("stream_chunk_size", s.chunkSize),
    ("typewriter_delay_ms", s.delay), ("audio", .obj s.audio)]

/-- The text in which settings are stored. -/
def write (room : Json.Room) (s : Settings) : Except Fault Text :=
  (Json.writeWithin room .indentedAscii s.toJson).mapError .ofJson

/-- Whether a list or a text holds one of the names. -/
def holdsName : Json → Bool
  | .arr vs => vs.any fun v => (v.text?.elim false names.contains)
  | .str s => names.any fun n => s.texts.any (Text.hasPart n)
  | _ => false

/-- The members of an object; other values are at fault. -/
def members? : Json → Except Fault (List (Str × Json))
  | .obj ms => .ok ms
  | .arr vs => .error (if holdsName (.arr vs) then .notSearchable else .noMembers)
  | .str s => .error (if holdsName (.str s) then .notSearchable else .noMembers)
  | _ => .error .notSearchable

/-- The settings with the values that members give, and audio settings made by `mix` from
those there are and those given. -/
def overlay (mix : (audio given : List (Str × Json)) → List (Str × Json)) (s : Settings)
    (ms : List (Str × Json)) : Settings where
  tailLimit := (Entries.get? ms "fallback_tail_limit").getD s.tailLimit
  chunkSize := (Entries.get? ms "stream_chunk_size").getD s.chunkSize
  delay := (Entries.get? ms "typewriter_delay_ms").getD s.delay
  audio :=
    match Entries.get? ms "audio" with
    | some (.obj given) => mix s.audio given
    | _ => s.audio

/-- Audio settings with all those given. -/
def mixAll (audio given : List (Str × Json)) : List (Str × Json) :=
  given.foldl (fun es e => Entries.put e.1 e.2 es) audio

/-- Audio settings with those given whose names are known. -/
def mixKnown (audio given : List (Str × Json)) : List (Str × Json) :=
  mixAll audio (given.filter fun e => Entries.hasKey audio e.1)

/-- The settings that a stored text describes. -/
def read (room : Json.Room) (t : Text) : Except Fault Settings :=
  match Json.readMerged room t with
  | .error f => .error (.ofJson f)
  | .ok v => (members? v).map (overlay mixAll defaults)

/-- The settings with changes; unknown names are passed over. -/
def change (s : Settings) (fields : Json) : Except Fault Settings :=
  (members? fields).map (overlay mixKnown s)

/-- The tail limit that the settings name. -/
def limit (s : Settings) : TailLimit :=
  .ofJson s.tailLimit

end Settings

end BranchingStory
