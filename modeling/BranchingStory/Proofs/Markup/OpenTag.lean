import BranchingStory.Proofs.Markup.Fallback
import BranchingStory.Proofs.Markup.Pieces

/-!
# Default choices and tags that are still arriving

A parser offers its default choices only where nothing more is to be expected.  Whether a tag is
still arriving is told by the numbers of angle brackets in the tail, so that closing brackets that
close nothing make up for a tag that is open.  Where the tail ends within a tag, nothing is offered
unless there are more closing brackets in front of the tag than other opening ones:
`Parser.feed_endsInTag`.
-/

namespace BranchingStory

namespace Parser

variable {p : Parser}

/-! ### The brackets of a tail -/

/-- In a tail that ends within a tag, the brackets even out exactly when the closing ones are more
than the opening ones without that of the tag. -/
theorem count_le_count_iff (front : Text) {tag : Text} (hclose : '>' ∉ tag) :
  (front ++ '<' :: tag).count '<' ≤ (front ++ '<' :: tag).count '>'
    ↔ front.count '<' + tag.count '<' < front.count '>'
  := by
  have hopens : ('<' :: tag).count '<' = tag.count '<' + 1 := List.count_cons_self
  have hcloses : ('<' :: tag).count '>' = 0 := by
    rw [List.count_cons_of_ne (by decide), List.count_eq_zero.mpr hclose]
  rw [List.count_append, List.count_append, hopens, hcloses]
  omega

/-- Nothing more is expected behind a tail without an opener in which there are as many closing
angle brackets as opening ones. -/
theorem expectsMore_eq_false_iff {tail : Text} :
  expectsMore tail = false
    ↔ (Opener.find? tail).isNone = true ∧ tail.count '<' ≤ tail.count '>'
  := by
  -- A tail with an opening angle bracket and no closing one has too few of them.
  have hclose (hcount : tail.count '<' ≤ tail.count '>') (hopen : '<' ∈ tail) : '>' ∈ tail := by
    apply List.count_pos_iff.mp
    exact (List.count_pos_iff.mpr hopen).trans_le hcount
  simp only [expectsMore, Bool.or_eq_false_iff, Bool.and_eq_false_iff, Bool.not_eq_false',
    List.contains_iff_mem, decide_eq_false_iff_not, Nat.not_lt, Option.isSome_eq_false_iff]
  constructor
  · rintro ⟨⟨-, hcount⟩, hopener⟩
    exact ⟨hopener, hcount⟩
  · rintro ⟨hopener, hcount⟩
    refine ⟨⟨?_, hcount⟩, hopener⟩
    by_cases hopen : '<' ∈ tail
    · exact Or.inr (hclose hcount hopen)
    · exact Or.inl (by simpa using hopen)

/-! ### When default choices are offered -/

/-- Whether default choices are wanted, whatever the brackets of the tail are: there are segments
and no choices, the tail is without an opener, and in trimmed form it is within the limit. -/
def wantsDefaults (p : Parser) : Bool :=
  p.choices.isEmpty && !p.segments.isEmpty && (Opener.find? p.pending).isNone
    && p.limit.admits? (Text.trim p.pending).length == some true

theorem isDue_iff :
  isDue p.limit p = true
    ↔ p.wantsDefaults = true ∧ p.pending.count '<' ≤ p.pending.count '>'
  := by
  simp only [isDue, wantsDefaults, Bool.and_eq_true, Bool.not_eq_true', expectsMore_eq_false_iff]
  tauto

/-- The parser behind the blocks that a piece finishes. -/
def behind (p : Parser) (piece : Text) : Parser :=
  (p.takeBlocks (Block.scan (p.pending ++ piece)).blocks).2.withPending
    (Block.scan (p.pending ++ piece)).rest

/-- A piece that meets a block whose name is not regular leaves the parser behind the blocks; any
other one leaves it when it has fallen back there. -/
theorem feed_snd_eq (p : Parser) (piece : Text) :
  (p.feed piece).2
    = if (Block.scan (p.pending ++ piece)).irregular then p.behind piece
      else match (p.behind piece).fallBack with
        | .error _ => p.behind piece
        | .ok q => q
  := by
  cases hfall : (p.behind piece).fallBack with
  | error f =>
      rw [behind, withPending] at hfall
      simp only [feed, hfall]
      split_ifs <;> rfl
  | ok q =>
      rw [behind, withPending] at hfall
      simp only [feed, hfall]
      split_ifs <;> rfl

/-- Behind the blocks that a piece finishes a parser offers the default choices exactly when they
are due and the scan met no block whose name is not regular. -/
theorem feed_snd (p : Parser) (piece : Text) :
  (p.feed piece).2
    = if isDue (p.behind piece).limit (p.behind piece) = true
          ∧ (Block.scan (p.pending ++ piece)).irregular = false then
        (p.behind piece).fallen
      else p.behind piece
  := by
  rw [feed_snd_eq]
  obtain hfall | ⟨f, hfall, hdue⟩ := (p.behind piece).fallBack_cases
  · rw [hfall]
    cases (Block.scan (p.pending ++ piece)).irregular <;> simp
  · rw [hfall, hdue]
    simp

theorem pending_feed (p : Parser) (piece : Text) :
  (p.feed piece).2.pending = (p.behind piece).pending
  := by
  rw [feed_snd]
  split_ifs <;> rfl

/-- Whatever a parser was fed before: where the tail behind a piece ends within a tag, the default
choices are offered only if there are more closing angle brackets in front of the tag than other
opening ones in the tail, and then exactly when they are wanted.  Otherwise what there is to
choose comes from the blocks alone. -/
theorem feed_endsInTag {piece front tag : Text}
    (h : (p.feed piece).2.pending = front ++ '<' :: tag) (hclose : '>' ∉ tag) :
  (p.feed piece).2
    = if front.count '<' + tag.count '<' < front.count '>' ∧ (p.behind piece).wantsDefaults = true
          ∧ (Block.scan (p.pending ++ piece)).irregular = false then
        (p.behind piece).fallen
      else p.behind piece
  := by
  rw [pending_feed] at h
  have hdue : isDue (p.behind piece).limit (p.behind piece) = true
      ↔ (p.behind piece).wantsDefaults = true
        ∧ front.count '<' + tag.count '<' < front.count '>' := by
    rw [isDue_iff, h, count_le_count_iff front hclose]
  rw [feed_snd]
  apply if_congr _ rfl rfl
  rw [hdue]
  tauto

/-- The brackets of a tag that is not known even out in front of one that is still arriving. -/
theorem feed_endsInTag_even :
  (feed (new defaultLimit defaultChoices) "<Narrator>One.</Narrator> <b> <choi").2.pending
      = " <b> " ++ '<' :: "choi"
    ∧ '>' ∉ ("choi" : Text)
    ∧ (feed (new defaultLimit defaultChoices) "<Narrator>One.</Narrator> <b> <choi").2
      = behind (new defaultLimit defaultChoices) "<Narrator>One.</Narrator> <b> <choi"
  := by
  have hpending : (feed (new defaultLimit defaultChoices)
      "<Narrator>One.</Narrator> <b> <choi").2.pending = " <b> " ++ '<' :: "choi" := by
    decide +kernel
  have hclose : '>' ∉ ("choi" : Text) := by decide
  refine ⟨hpending, hclose, (feed_endsInTag hpending hclose).trans ?_⟩
  apply if_neg
  decide +kernel

/-- A closing angle bracket that closes nothing hides the tag that is still arriving. -/
theorem feed_stray_bracket :
  (feed (new defaultLimit defaultChoices) "<Narrator>One.</Narrator> > <choi").2.pending
      = " > " ++ '<' :: "choi"
    ∧ '>' ∉ ("choi" : Text)
    ∧ (feed (new defaultLimit defaultChoices) "<Narrator>One.</Narrator> > <choi").2.choices
      = defaultChoices
    ∧ (behind (new defaultLimit defaultChoices) "<Narrator>One.</Narrator> > <choi").choices = []
  := ⟨by decide +kernel, by decide, by decide +kernel, by decide +kernel⟩

end Parser

end BranchingStory
