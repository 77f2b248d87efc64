import BranchingStory.Markup.Printer
import BranchingStory.Markup.Utterance

/-!
# Scripts

A script is a list of passages with text before, between and behind them.  It is plain
when nothing in it can be taken for markup: no text has an opening angle bracket, and no
value of an attribute has a double quote or an angle bracket.  `Script.utterances` and
`Script.offers` are what a plain script says and offers, read off its passages and not
off its markup.
-/

namespace BranchingStory

/-! ### Plain passages -/

/-- A text that may be the value of an attribute. -/
structure IsValue (t : Text) : Prop where
  noQuote : '"' ∉ t
  noOpen : '<' ∉ t
  noClose : '>' ∉ t

instance (t : Text) : Decidable (IsValue t) :=
  decidable_of_iff ('"' ∉ t ∧ '<' ∉ t ∧ '>' ∉ t)
    ⟨fun h => ⟨h.1, h.2.1, h.2.2⟩, fun h => ⟨h.noQuote, h.noOpen, h.noClose⟩⟩

/-- A beat whose texts are no markup. -/
def Beat.IsPlain : Beat → Prop
  | action expression text => IsValue expression ∧ '<' ∉ text
  | say text => '<' ∉ text

instance : DecidablePred Beat.IsPlain
  | .action expression text => inferInstanceAs (Decidable (IsValue expression ∧ '<' ∉ text))
  | .say text => inferInstanceAs (Decidable ('<' ∉ text))

/-- A choice whose texts are no markup. -/
def Choice.IsPlain (c : Choice) : Prop :=
  IsValue c.id ∧ '<' ∉ c.text

instance (c : Choice) : Decidable c.IsPlain :=
  inferInstanceAs (Decidable (IsValue c.id ∧ '<' ∉ c.text))

/-- A passage whose texts are no markup, with a beat at least when it is a scene. -/
def Passage.IsPlain : Passage → Prop
  | narration text => '<' ∉ text
  | speech name emotion text => IsValue name ∧ IsValue emotion ∧ '<' ∉ text
  | scene name lead beats =>
    IsValue name ∧ '<' ∉ lead ∧ beats ≠ [] ∧ ∀ b ∈ beats, b.1.IsPlain ∧ '<' ∉ b.2
  | record speaker emotion text => '<' ∉ speaker ∧ '<' ∉ emotion ∧ '<' ∉ text
  | choices lead options => '<' ∉ lead ∧ ∀ o ∈ options, o.1.IsPlain ∧ '<' ∉ o.2

instance : DecidablePred Passage.IsPlain
  | .narration text => inferInstanceAs (Decidable ('<' ∉ text))
  | .speech name emotion text =>
    inferInstanceAs (Decidable (IsValue name ∧ IsValue emotion ∧ '<' ∉ text))
  | .scene name lead beats =>
    inferInstanceAs (Decidable (IsValue name ∧ '<' ∉ lead ∧ beats ≠ []
      ∧ ∀ b ∈ beats, b.1.IsPlain ∧ '<' ∉ b.2))
  | .record speaker emotion text =>
    inferInstanceAs (Decidable ('<' ∉ speaker ∧ '<' ∉ emotion ∧ '<' ∉ text))
  | .choices lead options =>
    inferInstanceAs (Decidable ('<' ∉ lead ∧ ∀ o ∈ options, o.1.IsPlain ∧ '<' ∉ o.2))

/-! ### What passages say and offer -/

/-- What a speaker says with a trimmed text; nothing when that is empty. -/
def Utterance.ofTrimmed (once : Bool) (speaker : Text) (emotion : Emotion) (raw text : Text) :
    List Utterance :=
  if Text.trim raw = [] then [] else [⟨⟨speaker, emotion, text⟩, once⟩]

/-- What a speaker does and says beat by beat, in the emotion of the last action. -/
def Beat.utterances (speaker : Text) : Emotion → List Beat → List Utterance
  | _, [] => []
  | _, action expression text :: beats =>
    Utterance.ofTrimmed true speaker (.ofExpression expression) text
        (['('] ++ Text.trim text ++ [')'])
      ++ utterances speaker (.ofExpression expression) beats
  | emotion, say text :: beats =>
    Utterance.ofTrimmed true speaker emotion text (Text.trim text)
      ++ utterances speaker emotion beats

namespace Passage

/-- What a passage says: narration by the narrator, speech and scenes by a speaker in
capitals unless the name is blank, and records by a speaker in capitals or else the
narrator. -/
def utterances : Passage → List Utterance
  | narration text => Utterance.ofTrimmed false Segment.narrator .neutral text (Text.trim text)
  | speech name emotion text =>
    if Text.trim name = [] then []
    else
      Utterance.ofTrimmed false (Text.upper (Text.trim name)) (.ofExpression emotion) text
        (Text.trim text)
  | scene name _ beats =>
    if Text.trim name = [] then []
    else Beat.utterances (Text.upper (Text.trim name)) .neutral (beats.map (·.1))
  | record speaker emotion text =>
    Utterance.ofTrimmed false
      (if Text.trim speaker = [] then Segment.narrator else Text.upper (Text.trim speaker))
      (.ofExpression (Text.trim emotion)) text (Text.trim text)
  | choices _ _ => []

/-- The choices that a passage offers, trimmed, without those of a blank name. -/
def offers : Passage → List Choice
  | choices _ options =>
    (options.filter fun o => Text.trim o.1.id ≠ []).map fun o =>
      ⟨Text.trim o.1.id, Text.trim o.1.text, o.1.disabled⟩
  | _ => []

end Passage

/-- Passages with text before them, and each with the text behind it. -/
structure Script where
  lead : Text
  parts : List (Passage × Text)

namespace Script

/-- The markup of a script. -/
def print (s : Script) : Text :=
  s.lead ++ s.parts.flatMap fun p => p.1.print ++ p.2

/-- A script whose texts are no markup. -/
def IsPlain (s : Script) : Prop :=
  '<' ∉ s.lead ∧ ∀ p ∈ s.parts, p.1.IsPlain ∧ '<' ∉ p.2

instance (s : Script) : Decidable s.IsPlain :=
  inferInstanceAs (Decidable ('<' ∉ s.lead ∧ ∀ p ∈ s.parts, p.1.IsPlain ∧ '<' ∉ p.2))

/-- What the passages of a script say. -/
def utterances (s : Script) : List Utterance :=
  s.parts.flatMap (·.1.utterances)

/-- The choices that the passages of a script offer. -/
def offers (s : Script) : List Choice :=
  s.parts.flatMap (·.1.offers)

/-- The text behind the last passage of a script. -/
def tail (s : Script) : Text :=
  (s.parts.getLast?.map (·.2)).getD s.lead

end Script

end BranchingStory
