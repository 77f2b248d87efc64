import BranchingStory.Markup.TailLimit
import BranchingStory.Markup.Utterance

/-!
# The parser

A parser is fed a story in pieces and gives out the segments that each piece finishes.
It keeps the text behind the last finished block, everything given out so far, and the
choices found.  `Parser.feed` may fail, at a block whose name is not regular or at a
limit that cannot be compared; the parser it leaves behind then still holds what was
finished before the fault, and the text from there on.
-/

namespace BranchingStory

/-- The state of a parser: its settings, the text that waits for more, the segments given
out, those given out that are not to be repeated, the choices found, and whether the
choices are complete. -/
structure Parser where
  limit : TailLimit
  defaults : List Choice
  pending : Text
  segments : List Segment
  said : List Segment
  choices : List Choice
  complete : Bool

namespace Parser

/-- Why a piece cannot be parsed to its end. -/
inductive Fault where
  /-- A block's name does not become a known name in small letters. -/
  | irregularName
  /-- The tail limit cannot be compared with a count. -/
  | limitNotComparable
  deriving Repr, DecidableEq

/-- The tail limit of a parser when no other is given. -/
def defaultLimit : TailLimit := .count 50

/-- The choices offered when a story ends without any. -/
def defaultChoices : List Choice :=
  [⟨"approach_lumine", "Approach Lumine and ask about her travels between worlds", false⟩,
   ⟨"talk_zhongli", "Sit with Zhongli and inquire about the contracts he mentioned", false⟩,
   ⟨"challenge_tartaglia", "Accept Tartaglia's challenge and show your fighting prowess", false⟩,
   ⟨"listen_venti", "Listen to Venti's music and share a story of your own", false⟩]

/-- A parser that has not been fed anything. -/
def new (limit : TailLimit) (defaults : List Choice) : Parser :=
  ⟨limit, defaults, [], [], [], [], false⟩

/-- The parser without anything it was fed. -/
def reset (p : Parser) : Parser :=
  new p.limit p.defaults

/-- Gives out the segment of an utterance, unless it is not to be repeated and was
given out before. -/
def say (p : Parser) (u : Utterance) : List Segment × Parser :=
  if u.once && p.said.contains u.segment then ([], p)
  else
    ([u.segment],
      { p with
        segments := p.segments ++ [u.segment]
        said := if u.once then p.said ++ [u.segment] else p.said })

/-- Gives out the segments of utterances, one after another. -/
def sayAll : Parser → List Utterance → List Segment × Parser
  | p, [] => ([], p)
  | p, u :: us =>
    let (new, p) := say p u
    let (more, p) := sayAll p us
    (new ++ more, p)

/-- Takes in the choices of a block; a choices block completes the choices when any are
known behind it. -/
def takeChoices (p : Parser) (b : Block) : Parser :=
  let choices := Choice.offerAll p.choices b.choices
  { p with
    choices := choices
    complete := p.complete || (b.kind == .choices && !choices.isEmpty) }

/-- Takes in a finished block. -/
def takeBlock (p : Parser) (b : Block) : List Segment × Parser :=
  let (new, p) := sayAll p b.utterances
  (new, takeChoices p b)

/-- Takes in finished blocks, one after another. -/
def takeBlocks : Parser → List Block → List Segment × Parser
  | p, [] => ([], p)
  | p, b :: bs =>
    let (new, p) := takeBlock p b
    let (more, p) := takeBlocks p bs
    (new ++ more, p)

/-- Whether a tail shows that more is to come: a tag that is not closed, or an opener. -/
def expectsMore (tail : Text) : Bool :=
  (tail.contains '<' && !tail.contains '>')
    || tail.count '>' < tail.count '<'
    || (Opener.find? tail).isSome

/-- Offers the default choices when segments but no choices were found, nothing more is
to be expected, and the trimmed tail is within the limit. -/
def fallBack (p : Parser) : Except Fault Parser :=
  if p.limit.isOff || !p.choices.isEmpty || p.segments.isEmpty || expectsMore p.pending then
    .ok p
  else
    match p.limit.admits? (Text.trim p.pending).length with
    | none => .error .limitNotComparable
    | some false => .ok p
    | some true =>
      .ok { p with choices := Choice.offerAll p.choices p.defaults, complete := true }

/-- Feeds a piece: the segments that it finishes, or a fault, and the parser afterwards. -/
def feed (p : Parser) (piece : Text) : Except Fault (List Segment) × Parser :=
  let scan := Block.scan (p.pending ++ piece)
  let (new, p) := takeBlocks p scan.blocks
  let p := { p with pending := scan.rest }
  if scan.irregular then (.error .irregularName, p)
  else
    match fallBack p with
    | .error e => (.error e, p)
    | .ok p => (.ok new, p)

/-- Feeds pieces one after another until one has a fault: all segments that they finish,
or the fault, and the parser afterwards. -/
def feedAll : Parser → List Text → Except Fault (List Segment) × Parser
  | p, [] => (.ok [], p)
  | p, piece :: pieces =>
    match feed p piece with
    | (.error e, p) => (.error e, p)
    | (.ok new, p) =>
      match feedAll p pieces with
      | (.error e, p) => (.error e, p)
      | (.ok more, p) => (.ok (new ++ more), p)

end Parser

end BranchingStory
