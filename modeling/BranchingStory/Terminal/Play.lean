import BranchingStory.Narrative.Session
import BranchingStory.Store.Settings
import BranchingStory.Terminal.Pause
import BranchingStory.Text.Numeral

/-!
# Playing on a terminal

The story is shown turn by turn.  Segments are typed out, choices are numbered from one,
and disabled ones are crossed out.  The player answers with the number of an enabled
choice or leaves with a word; any other answer is asked for again.
-/

namespace BranchingStory

namespace Terminal

/-- What is put out: text that is typed out character by character, or all at once. -/
inductive Output where
  | typed (t : Text)
  | printed (t : Text)
  deriving Repr, DecidableEq

/-- The text that is put out. -/
def Output.text : Output → Text
  | typed t => t
  | printed t => t

/-- Why playing breaks off. -/
inductive Fault where
  | pause (f : Pause.Fault)
  | parser (f : Parser.Fault)
  /-- An answer of digit-like characters is no numeral. -/
  | numeral (f : Numeral.Fault)
  deriving Repr, DecidableEq

/-- What the terminal is at. -/
inductive Screen where
  /-- It asks for one of the choices of a session. -/
  | asking (s : Session) (choices : List Choice)
  /-- The story has ended or the player has left. -/
  | closed
  | broken (f : Fault)

/-- What was put out last, and what the terminal is at then. -/
structure View where
  output : List Output
  screen : Screen

/-- The view with more output in front. -/
def View.after (output : List Output) (v : View) : View :=
  { v with output := output ++ v.output }

/-- What stands in front of an answer. -/
def prompt : Output := .printed "> "

/-- What is shown at the end of the story. -/
def ending : Output := .printed "\n— The End —\n"

/-- The words with which a player leaves. -/
def leaveWords : List Text := ["q", "quit", "exit"]

/-- The line of a choice of a number. -/
def choiceLine (number : Nat) (c : Choice) : Text :=
  (if c.disabled then "x " else "  ") ++ decimalDigits number ++ ['.', ' '] ++ c.text ++ ['\n']

/-- The lines of choices, the first of which has the number `n`. -/
def choiceLines (n : Nat) : List Choice → Text
  | [] => []
  | c :: cs => choiceLine n c ++ choiceLines (n + 1) cs

/-- The lines of segments as far as they can be typed out, and what hinders it. -/
def typeOut (pause : Binary64) : List Segment → List Output × Option Pause.Fault
  | [] => ([], none)
  | s :: ss =>
    match s.line, Pause.fault? pause with
    | c :: _, some f => ([.typed [c]], some f)
    | line, _ =>
      let (more, fault) := typeOut pause ss
      (.typed line :: .printed ['\n'] :: more, fault)

/-- Shows a turn: its segments, and its choices unless the story ends there. -/
def showTurn (pause : Binary64) (turn : Turn) (s : Session) : View :=
  match typeOut pause turn.segments with
  | (output, some f) => ⟨output, .broken (.pause f)⟩
  | (output, none) =>
    if s.finished || turn.choices.all Choice.disabled then ⟨output ++ [ending], .closed⟩
    else
      ⟨output ++ [.printed ('\n' :: choiceLines 1 turn.choices), prompt],
        .asking s turn.choices⟩

/-- Shows a step of a session. -/
def showStep (pause : Binary64) : Except Parser.Fault Turn × Session → View
  | (.ok turn, s) => showTurn pause turn s
  | (.error f, _) => ⟨[], .broken (.parser f)⟩

/-- The enabled choice whose number an answer is. -/
def picked (choices : List Choice) (answer : Text) : Except Numeral.Fault (Option Choice) :=
  if answer.isEmpty || !answer.all isDigitLike then .ok none
  else
    (Numeral.read answer).map fun (n : Int) =>
      if 1 ≤ n ∧ n ≤ choices.length then
        choices[n.toNat - 1]?.filter fun c => !c.disabled
      else none

/-- Takes the player's answer. -/
def answer (pause : Binary64) (s : Session) (choices : List Choice) (line : Text) : View :=
  let word := Text.trim line
  if leaveWords.contains (Text.lower word) then ⟨[], .closed⟩
  else
    match picked choices word with
    | .error f => ⟨[], .broken (.numeral f)⟩
    | .ok none => ⟨[prompt], .asking s choices⟩
    | .ok (some c) => (showStep pause (s.choose c.id)).after [.printed ['\n']]

/-- Begins to play with the opening of the story. -/
def start (settings : Settings) (opening : Text) : Except Fault (Binary64 × View) :=
  match Pause.ofJson settings.delay with
  | .error f => .error (.pause f)
  | .ok pause =>
    .ok (pause, showStep pause ((Session.new [] [] settings.limit none).begin opening false))

/-- How playing ends. -/
inductive Ending where
  | closed
  | broken (f : Fault)
  /-- There are no more answers. -/
  | outOfAnswers
  deriving Repr, DecidableEq

/-- A game that was played: everything put out, how it ended, and the answers not
taken. -/
structure Game where
  output : List Output
  ending : Ending
  unread : List Text

/-- Plays on from a view with the player's answers. -/
def playOn (pause : Binary64) : View → List Text → Game
  | ⟨output, .closed⟩, lines => ⟨output, .closed, lines⟩
  | ⟨output, .broken f⟩, lines => ⟨output, .broken f, lines⟩
  | ⟨output, .asking _ _⟩, [] => ⟨output, .outOfAnswers, []⟩
  | ⟨output, .asking s choices⟩, line :: lines =>
    let game := playOn pause (answer pause s choices line) lines
    { game with output := output ++ game.output }

/-- Plays with the player's answers. -/
def play (settings : Settings) (opening : Text) (answers : List Text) : Game :=
  match start settings opening with
  | .error f => ⟨[], .broken f, answers⟩
  | .ok (pause, v) => playOn pause v answers

end Terminal

end BranchingStory
