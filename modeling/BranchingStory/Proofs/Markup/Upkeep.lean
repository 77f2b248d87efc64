import BranchingStory.Proofs.Markup.IrregularName
import BranchingStory.Proofs.Markup.Repetition
import BranchingStory.Proofs.Markup.SiteScan
import BranchingStory.Proofs.Text.Trim

/-!
# What every run of a parser keeps

However a parser is fed and reset, and also behind a fault: its choices are complete exactly when
there are any, they have one name each, every segment has a trimmed text and a speaker, and what
waits for more is an end of the text fed since the last reset.  From one reset to the next,
segments and choices are only added, and the segments are those that the pieces gave.
-/

namespace BranchingStory

/-! ### Segments of utterances -/

/-- A segment that can be shown: a trimmed text that is not empty, of a speaker with a name and
in one of the emotions. -/
structure Segment.IsShowable (s : Segment) : Prop where
  text_ne_nil : s.text ≠ []
  trim_text : Text.trim s.text = s.text
  speaker_ne_nil : s.speaker ≠ []
  emotion_mem : s.emotion ∈ Emotion.all

/-- All emotions are listed. -/
theorem Emotion.mem_all (e : Emotion) :
  e ∈ all
  := by
  cases e <;> decide

namespace Utterance

variable {speaker : Text} {u : Utterance}

/-- What a text says can be shown under a name. -/
theorem isShowable_ofText {once : Bool} {emotion : Emotion} {raw : Text} (hs : speaker ≠ [])
    (hu : u ∈ ofText once speaker emotion raw) :
  u.segment.IsShowable
  := by
  unfold ofText at hu
  dsimp only at hu
  split_ifs at hu with ht
  · cases hu
  · obtain rfl := List.mem_singleton.mp hu
    exact ⟨by simpa using ht, Text.trim_trim raw, hs, emotion.mem_all⟩

/-- What an action tells can be shown under a name. -/
theorem isShowable_ofAction {emotion : Emotion} {raw : Text} (hs : speaker ≠ [])
    (hu : u ∈ ofAction speaker emotion raw) :
  u.segment.IsShowable
  := by
  unfold ofAction at hu
  dsimp only at hu
  split_ifs at hu
  · cases hu
  · obtain rfl := List.mem_singleton.mp hu
    refine ⟨List.cons_ne_nil _ _, ?_, hs, emotion.mem_all⟩
    apply Text.trim_of_ends
    · decide
    · decide

/-- What elements say can be shown under a name. -/
theorem isShowable_ofElements {emotion : Emotion} {es : List Element} (hs : speaker ≠ [])
    (hu : u ∈ ofElements speaker emotion es) :
  u.segment.IsShowable
  := by
  induction es generalizing emotion with
  | nil => cases hu
  | cons e es ih =>
      rw [ofElements] at hu
      split_ifs at hu
      · obtain hu | hu := List.mem_append.mp hu
        · apply isShowable_ofAction hs hu
        · apply ih hu
      · obtain hu | hu := List.mem_append.mp hu
        · apply isShowable_ofText hs hu
        · apply ih hu

/-- What a compact scene says can be shown under a name. -/
theorem isShowable_ofCompact {scene : Compact} (hs : speaker ≠ [])
    (hu : u ∈ ofCompact speaker scene) :
  u.segment.IsShowable
  := by
  obtain hu | hu := List.mem_append.mp hu
  · apply isShowable_ofAction hs hu
  · apply isShowable_ofText hs hu

/-- What any scene says can be shown under a name. -/
theorem isShowable_ofScene {opening inner : Text} (hs : speaker ≠ [])
    (hu : u ∈ ofScene speaker opening inner) :
  u.segment.IsShowable
  := by
  unfold ofScene at hu
  split at hu
  · apply isShowable_ofText hs hu
  · apply isShowable_ofElements hs hu

end Utterance

/-- Whatever a block says can be shown. -/
theorem Block.isShowable_of_mem {b : Block} {u : Utterance} (hu : u ∈ b.utterances) :
  u.segment.IsShowable
  := by
  have hnarrator : Segment.narrator ≠ [] := by decide
  unfold utterances at hu
  split at hu
  · apply Utterance.isShowable_ofText hnarrator hu
  · split_ifs at hu with hs
    · cases hu
    · have hs : b.speaker ≠ [] := by simpa using hs
      split at hu
      · apply Utterance.isShowable_ofCompact hs hu
      · apply Utterance.isShowable_ofScene hs hu
  · unfold record at hu
    dsimp only at hu
    split_ifs at hu with hs
    · apply Utterance.isShowable_ofText hnarrator hu
    · apply Utterance.isShowable_ofText (by simpa using hs) hu
  · cases hu

/-! ### What a scan leaves -/

/-- A scan leaves an end of its text. -/
theorem Block.scanFrom_rest_suffix {kept cursor : Text} (h : cursor <:+ kept) :
  (scanFrom kept cursor).rest <:+ kept
  := by
  induction hn : cursor.length using Nat.strongRecOn generalizing kept cursor with
  | ind n ih =>
      subst hn
      rw [scanFrom_eq]
      cases hs : Sight.of cursor with
      | waits => exact List.suffix_rfl
      | irregular => exact List.suffix_rfl
      | passes rest =>
          obtain ⟨u, rfl, -⟩ := Site.exists_of_sight_passes hs
          apply ih _ (Sight.length_of_passes hs) ((List.suffix_append u rest).trans h) rfl
      | finishes b rest =>
          obtain ⟨u, -, rfl, -⟩ := Site.exists_of_sight_finishes hs
          have hrest := ih _ (Sight.length_of_finishes hs) (List.suffix_rfl (l := rest)) rfl
          exact (hrest.trans (List.suffix_append u rest)).trans h

/-- What is left of a text is its end. -/
theorem Block.scan_rest_suffix (t : Text) :
  (scan t).rest <:+ t
  := scanFrom_rest_suffix List.suffix_rfl

/-! ### Choices of different names -/

/-- Choices are offered behind those that are there. -/
theorem Choice.prefix_offerAll (cs more : List Choice) :
  cs <+: offerAll cs more
  := by
  rw [offerAll_eq]
  apply List.prefix_append

/-- Offering choices leaves one of each name. -/
theorem Choice.nodup_offerAll {cs : List Choice} (h : (cs.map (·.id)).Nodup)
    (more : List Choice) :
  ((offerAll cs more).map (·.id)).Nodup
  := by
  rw [offerAll_eq, List.map_append, List.nodup_append]
  refine ⟨h, (nodup_firsts more).sublist (List.filter_sublist.map _), ?_⟩
  rintro i hi _ hj rfl
  obtain ⟨c, hc, rfl⟩ := List.mem_map.mp hi
  obtain ⟨d, hd, he⟩ := List.mem_map.mp hj
  obtain ⟨-, hnot⟩ := List.mem_filter.mp hd
  have hoffered : isOffered d.id cs = true := List.any_eq_true.mpr ⟨c, hc, by simp [he]⟩
  simp [hoffered] at hnot

theorem Choice.offerAll_ne_nil (cs : List Choice) {more : List Choice} (h : more ≠ []) :
  offerAll cs more ≠ []
  := by
  intro he
  rw [offerAll_eq, List.append_eq_nil_iff] at he
  obtain ⟨rfl, hmore⟩ := he
  apply firsts_ne_nil h
  simpa [isOffered] using hmore

namespace Parser

/-! ### Segments given out -/

/-- Nothing is shown but what is said. -/
theorem mem_say {p : Parser} {u : Utterance} {s : Segment} (h : s ∈ (say p u).1) :
  s = u.segment
  := by
  unfold say at h
  split_ifs at h
  · cases h
  · exact List.mem_singleton.mp h
  · exact List.mem_singleton.mp h

/-- Of several things, nothing is shown but what is said. -/
theorem mem_sayAll {p : Parser} {us : List Utterance} {s : Segment} (h : s ∈ (sayAll p us).1) :
  ∃ u ∈ us, s = u.segment
  := by
  induction us generalizing p with
  | nil => cases h
  | cons u us ih =>
      obtain h | h := List.mem_append.mp h
      · exact ⟨u, List.mem_cons_self, mem_say h⟩
      · obtain ⟨v, hv, rfl⟩ := ih h
        exact ⟨v, List.mem_cons_of_mem _ hv, rfl⟩

/-- The segments that blocks give out are said in them. -/
theorem mem_takeBlocks {p : Parser} {bs : List Block} {s : Segment}
    (h : s ∈ (takeBlocks p bs).1) :
  ∃ b ∈ bs, ∃ u ∈ b.utterances, s = u.segment
  := by
  induction bs generalizing p with
  | nil => cases h
  | cons b bs ih =>
      obtain h | h := List.mem_append.mp h
      · exact ⟨b, List.mem_cons_self, mem_sayAll h⟩
      · obtain ⟨c, hc, hu⟩ := ih h
        exact ⟨c, List.mem_cons_of_mem _ hc, hu⟩

/-! ### One piece -/

/-- A parser in good order: the choices are complete exactly when there are any and have one name
each, and the segments can be shown. -/
structure IsOrderly (p : Parser) : Prop where
  complete_iff : p.complete = true ↔ p.choices ≠ []
  nodup : (p.choices.map (·.id)).Nodup
  showable : ∀ s ∈ p.segments, s.IsShowable

/-- What is only added to: segments and choices, and complete choices stay complete. -/
structure Grows (p q : Parser) : Prop where
  segments : p.segments <+: q.segments
  choices : p.choices <+: q.choices
  complete : p.complete = true → q.complete = true

variable {p q r : Parser}

theorem Grows.refl (p : Parser) :
  p.Grows p
  := ⟨List.prefix_rfl, List.prefix_rfl, id⟩

/-- A parser that grows and grows again grows. -/
theorem Grows.trans (h : p.Grows q) (h' : q.Grows r) :
  p.Grows r
  := ⟨h.segments.trans h'.segments, h.choices.trans h'.choices, h'.complete ∘ h.complete⟩

theorem IsOrderly.settled (h : p.IsOrderly) :
  p.Settled
  := by
  rw [Settled, Bool.eq_iff_iff, h.complete_iff]
  simp

/-- A parser whose choices are complete exactly when it has any keeps its order and only grows,
if what is added is in order. -/
theorem IsOrderly.grows (h : p.IsOrderly) {new : List Segment} (hq : q.Settled)
    (hsegments : q.segments = p.segments ++ new) (hnew : ∀ s ∈ new, s.IsShowable)
    {more : List Choice} (hchoices : q.choices = Choice.offerAll p.choices more) :
  q.IsOrderly ∧ p.Grows q
  := by
  have hcomplete : q.complete = true ↔ q.choices ≠ [] := by
    rw [hq]
    simp
  refine ⟨⟨hcomplete, ?_, fun s hs => ?_⟩, ⟨?_, ?_, fun hp => ?_⟩⟩
  · rw [hchoices]
    apply Choice.nodup_offerAll h.nodup
  · rw [hsegments, List.mem_append] at hs
    exact hs.elim (h.showable s) (hnew s)
  · rw [hsegments]
    apply List.prefix_append
  · rw [hchoices]
    apply Choice.prefix_offerAll
  · rw [hcomplete]
    intro hnil
    have hprefix := Choice.prefix_offerAll p.choices more
    rw [← hchoices, hnil] at hprefix
    exact h.complete_iff.mp hp (List.prefix_nil.mp hprefix)

/-- Taking in blocks keeps the order and only adds. -/
theorem IsOrderly.takeBlocks (h : p.IsOrderly) (bs : List Block) :
  (p.takeBlocks bs).2.IsOrderly ∧ p.Grows (p.takeBlocks bs).2
  := by
  apply h.grows (h.settled.takeBlocks bs) (segments_takeBlocks p bs) _ (takeBlocks_choices p bs)
  intro s hs
  obtain ⟨b, -, u, hu, rfl⟩ := mem_takeBlocks hs
  apply Block.isShowable_of_mem hu

/-- Falling back keeps the order and only adds, where there are default choices. -/
theorem IsOrderly.fallBack (h : p.IsOrderly) (hd : p.defaults ≠ []) (hq : p.fallBack = .ok q) :
  q.IsOrderly ∧ p.Grows q
  := by
  unfold Parser.fallBack at hq
  split_ifs at hq
  · rw [← Except.ok.inj hq]
    exact ⟨h, .refl p⟩
  · split at hq
    · cases hq
    · rw [← Except.ok.inj hq]
      exact ⟨h, .refl p⟩
    · have hq := Except.ok.inj hq
      have hsegments : q.segments = p.segments ++ [] := by rw [← hq, List.append_nil]
      have hchoices : q.choices = Choice.offerAll p.choices p.defaults := by rw [← hq]
      have hsettled : q.Settled := by
        have hne := Choice.offerAll_ne_nil p.choices hd
        rw [Settled, hchoices, ← hq]
        simpa using hne
      apply h.grows hsettled hsegments (List.forall_mem_nil _) hchoices

/-- An orderly parser is so whatever is pending. -/
theorem IsOrderly.withPending (h : p.IsOrderly) (t : Text) :
  (p.withPending t).IsOrderly
  := ⟨h.complete_iff, h.nodup, h.showable⟩

theorem Grows.withPending (h : p.Grows q) (t : Text) :
  p.Grows (q.withPending t)
  := ⟨h.segments, h.choices, h.complete⟩

/-- A piece is at fault behind the blocks that the scan finished, or the parser falls back there
and gives out what they say. -/
theorem feed_cases (p : Parser) (piece : Text) :
  ∃ scan q, scan = Block.scan (p.pending ++ piece)
    ∧ q = (p.takeBlocks scan.blocks).2.withPending scan.rest
    ∧ ((∃ f, p.feed piece = (.error f, q))
        ∨ ∃ r, q.fallBack = .ok r ∧ p.feed piece = (.ok (p.takeBlocks scan.blocks).1, r))
  := by
  refine ⟨_, _, rfl, rfl, ?_⟩
  simp only [feed]
  split_ifs
  · exact .inl ⟨_, rfl⟩
  · split
    · exact .inl ⟨_, rfl⟩
    · next r hfall => exact .inr ⟨r, hfall, rfl⟩

/-- Feeding a piece keeps the order and only adds, also when it is at fault. -/
theorem IsOrderly.feed (h : p.IsOrderly) (hd : p.defaults ≠ []) (piece : Text) :
  (p.feed piece).2.IsOrderly ∧ p.Grows (p.feed piece).2
  := by
  obtain ⟨scan, q, -, rfl, hfeed⟩ := feed_cases p piece
  obtain ⟨horderly, hgrows⟩ := h.takeBlocks scan.blocks
  obtain ⟨f, hf⟩ | ⟨r, hr, hf⟩ := hfeed
  · rw [hf]
    exact ⟨horderly.withPending _, hgrows.withPending _⟩
  · rw [hf]
    have hd' : ((p.takeBlocks scan.blocks).2.withPending scan.rest).defaults ≠ [] := by
      obtain ⟨_, _, _, _, hframe⟩ := takeBlocks_frame p scan.blocks
      rwa [hframe]
    obtain ⟨horderly', hgrows'⟩ := (horderly.withPending _).fallBack hd' hr
    exact ⟨horderly', (hgrows.withPending _).trans hgrows'⟩

/-- What waits for more is an end of what waited before and the piece. -/
theorem pending_feed_suffix (p : Parser) (piece : Text) :
  (p.feed piece).2.pending <:+ p.pending ++ piece
  := by
  obtain ⟨scan, q, rfl, rfl, hfeed⟩ := feed_cases p piece
  obtain ⟨f, hf⟩ | ⟨r, hr, hf⟩ := hfeed
  · rw [hf]
    apply Block.scan_rest_suffix
  · obtain ⟨cs, done, rfl⟩ := fallBack_frame hr
    rw [hf]
    apply Block.scan_rest_suffix

/-- The segments that a piece gives are added at the end. -/
theorem segments_feed {piece : Text} {new : List Segment} (h : (p.feed piece).1 = .ok new) :
  (p.feed piece).2.segments = p.segments ++ new
  := by
  obtain ⟨scan, q, -, rfl, hfeed⟩ := feed_cases p piece
  obtain ⟨f, hf⟩ | ⟨r, hr, hf⟩ := hfeed
  · rw [hf] at h
    cases h
  · obtain ⟨cs, done, rfl⟩ := fallBack_frame hr
    rw [hf] at h ⊢
    obtain rfl := Except.ok.inj h
    apply segments_takeBlocks

/-- Feeding a piece leaves the default choices. -/
theorem defaults_feed (p : Parser) (piece : Text) :
  (p.feed piece).2.defaults = p.defaults
  := by
  obtain ⟨_, _, _, _, _, hframe⟩ := feed_frame p piece
  rw [hframe]

/-! ### Runs -/

/-- What a piece gave. -/
abbrev Outcome := Except Fault (List Segment)

/-- The pieces that were fed since the last reset and what each of them gave, behind `fed`, which
were fed before the steps. -/
def Step.sinceReset : (fed : List (Text × Outcome)) → List (Step × Outcome) → List (Text × Outcome)
  | fed, [] => fed
  | fed, (.feed piece, outcome) :: es => sinceReset (fed ++ [(piece, outcome)]) es
  | _, (.reset, _) :: es => sinceReset [] es

/-- A parser in good order behind the pieces that were fed since the last reset: an end of their
text waits, and when none of them was at fault its segments are those that they gave. -/
structure Upholds (p : Parser) (fed : List (Text × Outcome)) : Prop where
  orderly : p.IsOrderly
  defaults : p.defaults ≠ []
  pending : p.pending <:+ (fed.map (·.1)).flatten
  segments : ∀ news : List (List Segment), fed.map (·.2) = news.map .ok →
    news.flatten = p.segments

/-- A new parser upholds what it promises. -/
theorem upholds_new (limit : TailLimit) {defaults : List Choice} (hd : defaults ≠ []) :
  (new limit defaults).Upholds []
  where
  orderly := ⟨by simp [new], List.nodup_nil, nofun⟩
  defaults := hd
  pending := List.nil_suffix
  segments news h := by
    obtain rfl := List.map_eq_nil_iff.mp h.symm
    rfl

/-- A parser upholds what it promises behind one more piece, failed or not. -/
theorem Upholds.feed {fed : List (Text × Outcome)} (h : p.Upholds fed) (piece : Text) :
  (p.feed piece).2.Upholds (fed ++ [(piece, (p.feed piece).1)])
  where
  orderly := (h.orderly.feed h.defaults piece).1
  defaults := by
    rw [defaults_feed]
    apply h.defaults
  pending := by
    rw [List.map_append, List.flatten_append]
    apply (pending_feed_suffix p piece).trans
    obtain ⟨front, hfront⟩ := h.pending
    refine ⟨front, ?_⟩
    rw [← List.append_assoc, hfront]
    simp
  segments news hnews := by
    rw [List.map_append] at hnews
    obtain ⟨earlier, last, rfl, hearlier, hlast⟩ := List.map_eq_append_iff.mp hnews.symm
    obtain ⟨new, rest, rfl, hnew, hrest⟩ := List.map_eq_cons_iff.mp hlast
    obtain rfl := List.map_eq_nil_iff.mp hrest
    rw [List.flatten_append, h.segments earlier hearlier.symm, segments_feed hnew.symm]
    simp

/-- A parser in good order stays so through a run. -/
theorem Upholds.stepEach {fed : List (Text × Outcome)} (h : p.Upholds fed) (steps : List Step) :
  (p.stepEach steps).2.Upholds (Step.sinceReset fed (steps.zip (p.stepEach steps).1))
  := by
  induction steps generalizing p fed with
  | nil => apply h
  | cons s steps ih =>
      cases s with
      | feed piece => apply ih (h.feed piece)
      | reset => apply ih (upholds_new p.limit h.defaults)

/-- However many pieces are fed, segments and choices are only added. -/
theorem Upholds.grows {fed : List (Text × Outcome)} (h : p.Upholds fed) (pieces : List Text) :
  p.Grows (p.feedEach pieces).2
  := by
  induction pieces generalizing p fed with
  | nil => apply Grows.refl
  | cons piece pieces ih => exact (h.orderly.feed h.defaults piece).2.trans (ih (h.feed piece))

/-- Whatever the tail limit, where there are default choices, and however a parser is fed and
reset, also behind a fault: it is in good order, an end of the text fed since the last reset
waits, the segments are those that the pieces fed since then gave, if none was at fault, and
until the next reset segments and choices are only added. -/
theorem stepEach_upholds (limit : TailLimit) {defaults : List Choice} (hd : defaults ≠ [])
    (steps : List Step) :
  let (outcomes, p) := stepEach (new limit defaults) steps
  let fed := Step.sinceReset [] (steps.zip outcomes)
  p.IsOrderly
    ∧ p.pending <:+ (fed.map (·.1)).flatten
    ∧ (∀ news : List (List Segment), fed.map (·.2) = news.map .ok → news.flatten = p.segments)
    ∧ ∀ pieces, p.Grows (p.feedEach pieces).2
  := by
  have h := (upholds_new limit hd).stepEach steps
  exact ⟨h.orderly, h.pending, h.segments, h.grows⟩

/-- A run with a reset, and behind it a segment, a block whose name begins with a long s, and more
text. -/
def stepsWithLongS : List Step :=
  [.feed "<Narrator>One</Narrator>", .reset, .feed "<Narrator> Two </Narrator> <\u017fegment>",
    .feed "<Nar"]

/-- A parser is orderly behind faults. -/
theorem stepEach_upholds_with_long_s :
  defaultChoices ≠ []
    ∧ (stepEach (new defaultLimit defaultChoices) stepsWithLongS).1
      = [.ok [⟨"NARRATOR", .neutral, "One"⟩], .ok [], .error .irregularName,
          .error .irregularName]
    ∧ (stepEach (new defaultLimit defaultChoices) stepsWithLongS).2.IsOrderly
    ∧ (stepEach (new defaultLimit defaultChoices) stepsWithLongS).2.Grows
        (feed (stepEach (new defaultLimit defaultChoices) stepsWithLongS).2 "rator>").2
  := by
  have hd : defaultChoices ≠ [] := List.cons_ne_nil _ _
  obtain ⟨horderly, -, -, hgrows⟩ := stepEach_upholds defaultLimit hd stepsWithLongS
  exact ⟨hd, by decide +kernel, horderly, hgrows ["rator>"]⟩

end Parser

end BranchingStory
