import BranchingStory.Proofs.Markup.Upkeep

/-!
# First occurrences

What a parser gives out is read off the text that it was fed since the last reset, however that
was cut and also behind a fault.  The finished blocks of the text propose segments in the order in
which they stand.  An action or a line is left out where the same one was proposed further in
front, and nothing else is left out: `Parser.feedEach_firsts`.
-/

namespace BranchingStory

/-! ### Utterances by their places -/

namespace Utterance

/-- The utterances that are given out: all but those that are not to be repeated and stand further
in front already. -/
def firsts (us : List Utterance) : List Utterance :=
  (us.zipIdx.filter fun e => !(e.1.once && (us.take e.2).contains e.1)).map (·.1)

/-- Behind earlier utterances an utterance is fresh by what stands in front of its place. -/
theorem fresh_eq (earlier us : List Utterance) :
  fresh earlier us
    = ((us.zipIdx earlier.length).filter fun e =>
        !(e.1.once && ((earlier ++ us).take e.2).contains e.1)).map (·.1)
  := by
  induction us generalizing earlier with
  | nil => rfl
  | cons u us ih =>
      have hlength : earlier.length + 1 = (earlier ++ [u]).length := by simp
      have hsplit : earlier ++ u :: us = earlier ++ [u] ++ us := by simp
      rw [fresh, ih, List.zipIdx_cons, hlength, hsplit]
      by_cases h : u.once = true ∧ u ∈ earlier
      · rw [if_pos h, List.filter_cons_of_neg (by simp [h.1, h.2])]
        rfl
      · rw [if_neg h, List.filter_cons_of_pos (by simpa [imp_iff_not_or] using h)]
        rfl

theorem fresh_nil (us : List Utterance) :
  fresh [] us = firsts us
  := fresh_eq [] us

end Utterance

/-! ### Which utterances are not to be repeated -/

namespace Utterance

variable {speaker : Text} {u : Utterance}

/-- What a text says is said once if this is asked for. -/
theorem once_of_ofText {once : Bool} {emotion : Emotion} {raw : Text}
    (hu : u ∈ ofText once speaker emotion raw) :
  u.once = once
  := by
  unfold ofText at hu
  dsimp only at hu
  split_ifs at hu
  · cases hu
  · rw [List.mem_singleton.mp hu]

/-- An action is told once. -/
theorem once_of_ofAction {emotion : Emotion} {raw : Text}
    (hu : u ∈ ofAction speaker emotion raw) :
  u.once = true
  := by
  unfold ofAction at hu
  dsimp only at hu
  split_ifs at hu
  · cases hu
  · rw [List.mem_singleton.mp hu]

/-- What elements say is said once. -/
theorem once_of_ofElements {emotion : Emotion} {es : List Element}
    (hu : u ∈ ofElements speaker emotion es) :
  u.once = true
  := by
  induction es generalizing emotion with
  | nil => cases hu
  | cons e es ih =>
      rw [ofElements] at hu
      split_ifs at hu
      · exact (List.mem_append.mp hu).elim once_of_ofAction ih
      · exact (List.mem_append.mp hu).elim once_of_ofText ih

/-- What a compact scene says is said once. -/
theorem once_of_ofCompact {scene : Compact} (hu : u ∈ ofCompact speaker scene) :
  u.once = true
  := (List.mem_append.mp hu).elim once_of_ofAction once_of_ofText

/-- What is said in a character block that is not in compact form is plain text, unless there are
actions or lines. -/
theorem once_of_ofScene {opening inner : Text} (hu : u ∈ ofScene speaker opening inner) :
  u.once = true ↔ Text.collect Element.spoken? inner ≠ []
  := by
  unfold ofScene at hu
  split at hu
  · next hnone => simp [once_of_ofText hu, hnone]
  · next hsome =>
    rw [once_of_ofElements hu, eq_self, true_iff]
    exact hsome

end Utterance

namespace Block

/-- A character block of actions and lines, be it in compact form or not. -/
def Acts (b : Block) : Prop :=
  b.kind = .character
    ∧ ((Compact.read? (Text.trim b.text)).isSome = true
        ∨ Text.collect Element.spoken? b.inner ≠ [])

/-- Actions and lines are not to be repeated; narration, records and the plain text of a character
are. -/
theorem once_iff_acts {b : Block} {u : Utterance} (hu : u ∈ b.utterances) :
  u.once = true ↔ b.Acts
  := by
  unfold utterances at hu
  rw [Acts]
  split at hu
  · next hkind => simp [Utterance.once_of_ofText hu, hkind]
  · next hkind =>
    split_ifs at hu
    · cases hu
    · split at hu
      · next hcompact => simp [Utterance.once_of_ofCompact hu, hkind, hcompact]
      · next hcompact => simp [Utterance.once_of_ofScene hu, hkind, hcompact]
  · next hkind => simp [Utterance.once_of_ofText hu, hkind]
  · cases hu

/-- All that the finished blocks of a text propose, in the order in which it stands there. -/
def proposed (t : Text) : List Utterance :=
  (scan t).blocks.flatMap (·.utterances)

theorem proposed_nil :
  proposed [] = []
  := by
  rw [proposed, scan, scanFrom_eq]
  rfl

/-- What is proposed in a longer text: first what the shorter one proposes, and then what stands
in what it left and the text that arrived. -/
theorem proposed_append (t u : Text) :
  proposed (t ++ u) = proposed t ++ proposed ((scan t).rest ++ u)
  := by
  rw [proposed, scan_append]
  apply List.flatMap_append

end Block

namespace Parser

variable {p : Parser} {t : Text}

/-! ### Pieces -/

/-- A parser that stands behind a text: what the text leaves waits, what it proposes is remembered,
and its first occurrences are given out. -/
structure Recounts (p : Parser) (t : Text) : Prop where
  pending : p.pending = (Block.scan t).rest
  remembers : p.Remembers (Block.proposed t)
  segments : p.segments = (Utterance.fresh [] (Block.proposed t)).map (·.segment)

theorem recounts_reset (p : Parser) :
  p.reset.Recounts []
  where
  pending := by
    rw [Block.scan, Block.scanFrom_eq]
    rfl
  remembers g := by
    rw [Block.proposed_nil]
    exact iff_of_false List.not_mem_nil List.not_mem_nil
  segments := by
    rw [Block.proposed_nil]
    rfl

/-- The blocks that a piece finishes are recounted. -/
theorem Recounts.takeBlocks (h : p.Recounts t) (piece : Text) :
  ((p.takeBlocks (Block.scan (p.pending ++ piece)).blocks).2.withPending
    (Block.scan (p.pending ++ piece)).rest).Recounts (t ++ piece)
  := by
  obtain ⟨hnew, hremembers⟩ :=
    h.remembers.takeBlocks (Block.scan (p.pending ++ piece)).blocks
  have hproposed : Block.proposed (t ++ piece) = Block.proposed t
      ++ (Block.scan (p.pending ++ piece)).blocks.flatMap (·.utterances) := by
    rw [Block.proposed_append, h.pending]
    rfl
  refine ⟨?_, ?_, ?_⟩
  · rw [Block.scan_append t piece, ← h.pending]
    rfl
  · rw [hproposed]
    apply hremembers
  · rw [hproposed, Utterance.fresh_append, List.map_append, ← h.segments]
    apply (segments_takeBlocks p _).trans
    rw [hnew]
    rfl

/-- A parser that stands behind a text stands behind the longer one after a piece, also when the
piece is at fault or the default choices are offered. -/
theorem Recounts.feed (h : p.Recounts t) (piece : Text) :
  (p.feed piece).2.Recounts (t ++ piece)
  := by
  obtain ⟨scan, q, rfl, rfl, hfeed⟩ := feed_cases p piece
  have hq := h.takeBlocks piece
  obtain ⟨f, hf⟩ | ⟨r, hr, hf⟩ := hfeed
  · rw [hf]
    apply hq
  · obtain ⟨cs, done, rfl⟩ := fallBack_frame hr
    rw [hf]
    exact ⟨hq.pending, hq.remembers, hq.segments⟩

/-- Behind all pieces a parser recounts the whole text that it was fed. -/
theorem Recounts.feedEach (h : p.Recounts t) (pieces : List Text) :
  (p.feedEach pieces).2.Recounts (t ++ pieces.flatten)
  := by
  induction pieces generalizing p t with
  | nil => simpa [Parser.feedEach] using h
  | cons piece pieces ih =>
      rw [List.flatten_cons, ← List.append_assoc]
      apply ih (h.feed piece)

/-- Whatever a parser was fed before it was reset, and whatever pieces it is fed then, also behind
a fault: its segments are what the finished blocks of the whole text propose, but for the actions
and lines that were proposed further in front as actions or lines; the text behind these blocks
waits; and the next piece that is not at fault gives the segments that it adds. -/
theorem feedEach_firsts (p : Parser) (pieces : List Text) :
  let q := (p.reset.feedEach pieces).2
  q.segments = (Utterance.firsts (Block.proposed pieces.flatten)).map (·.segment)
    ∧ (∀ b ∈ (Block.scan pieces.flatten).blocks, ∀ u ∈ b.utterances, (u.once = true ↔ b.Acts))
    ∧ q.pending = (Block.scan pieces.flatten).rest
    ∧ ∀ piece new, (q.feed piece).1 = .ok new → (q.feed piece).2.segments = q.segments ++ new
  := by
  intro q
  have hq : q.Recounts pieces.flatten := p.recounts_reset.feedEach pieces
  refine ⟨?_, ?_, hq.pending, ?_⟩
  · rw [hq.segments, Utterance.fresh_nil]
  · intro b _ u hu
    exact Block.once_iff_acts hu
  · intro piece new hnew
    exact segments_feed hnew

/-- A line that is said again is left out, and narration that is told again is not. -/
example :
  let q := ((new defaultLimit defaultChoices).reset.feedEach
    ["<Narrator>Dusk.</Narrator><Narrator>Du", "sk.</Narrator><Character name='Venti'>",
      "<say>Sit!</say><say>Sit!</say></Character>"]).2
  q.segments.map (·.text) = ["Dusk.", "Dusk.", "Sit!"]
  := by
  decide +kernel

end Parser

end BranchingStory
