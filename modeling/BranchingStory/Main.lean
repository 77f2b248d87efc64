import BranchingStory.Narrative.Fragment
import BranchingStory.Terminal.Play
import BranchingStory.Text.Newline

/-!
# The command line

`--play` plays the story on the terminal, with the settings in the file `config.json` of
the folder that `--data-dir` names.  Input that ends leaves the story.
-/

namespace BranchingStory

/-- The folder with the settings when none is named. -/
def defaultFolder : String := "data"

/-- The folder that arguments name behind `--data-dir`, if they do. -/
def folderNamed : List String → Option String
  | [] => none
  | [_] => none
  | a :: b :: rest => if a == "--data-dir" then some b else folderNamed (b :: rest)

/-- As much room as a text can need. -/
def roomFor (t : Text) : Json.Room := ⟨8 + t.length, Nat.le_add_right _ _⟩

/-- Reads the settings of a folder, which are the defaults when there is no file. -/
def readSettings (folder : String) : IO (Except Settings.Fault Settings) := do
  try
    let t := Text.unifyNewlines (← IO.FS.readFile (folder ++ "/config.json")).toList
    return Settings.read (roomFor t) t
  catch _ =>
    return .ok .defaults

/-- Puts a part of the output on the terminal, with a pause behind each typed character. -/
def put (out : IO.FS.Stream) (milliseconds : Nat) : Terminal.Output → IO Unit
  | .printed t => do
    out.putStr (String.ofList t)
    out.flush
  | .typed t => do
    for c in t do
      out.putStr c.toString
      out.flush
      if milliseconds ≠ 0 then IO.sleep milliseconds.toUInt32

/-- Shows a view and goes on as long as the player answers. -/
partial def playFrom (input out : IO.FS.Stream) (pause : Binary64) (v : Terminal.View) :
    IO UInt32 := do
  for part in v.output do
    put out (Pause.wholeMilliseconds pause) part
  match v.screen with
  | .closed => return 0
  | .broken _ =>
    IO.eprintln "the story cannot go on"
    return 1
  | .asking s choices =>
    let line ← input.getLine
    if line.isEmpty then
      out.putStrLn ""
      return 0
    else
      playFrom input out pause (Terminal.answer pause s choices line.toList)

/-- Plays the story with settings. -/
def playWith (settings : Settings) : IO UInt32 := do
  match Terminal.start settings (Text.unifyNewlines Fragment.prologue) with
  | .ok (pause, v) => playFrom (← IO.getStdin) (← IO.getStdout) pause v
  | .error _ =>
    IO.eprintln "the pause in the settings is not a number"
    return 1

end BranchingStory

open BranchingStory in
/-- Plays the story when asked to. -/
def main (args : List String) : IO UInt32 := do
  if args.contains "--play" then
    match ← readSettings ((folderNamed args).getD defaultFolder) with
    | .ok settings => playWith settings
    | .error _ =>
      IO.eprintln "the settings cannot be read"
      return 1
  else
    IO.eprintln "usage: --play [--data-dir FOLDER]"
    return 2
