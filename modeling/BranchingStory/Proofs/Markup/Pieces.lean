import BranchingStory.Markup.Parser
import BranchingStory.Proofs.Markup.Sight

/-!
# Feeding in pieces

`Parser.feedEach` feeds pieces one after another and goes on behind a fault.  A parser
without a tail limit comes to the same state, to a fault or not, and to the same segments,
however the text is cut into pieces: `Parser.feedEach_eq_feed`.
-/

namespace BranchingStory

namespace Parser

/-- The parser with another text that waits for more. -/
def withPending (p : Parser) (t : Text) : Parser :=
  { p with pending := t }

/-- What is made pending is pending. -/
@[simp]
theorem pending_withPending (p : Parser) (t : Text) :
  (p.withPending t).pending = t
  := rfl

@[simp]
theorem limit_withPending (p : Parser) (t : Text) :
  (p.withPending t).limit = p.limit
  := rfl

@[simp]
theorem withPending_withPending (p : Parser) (t u : Text) :
  (p.withPending t).withPending u = p.withPending u
  := rfl

/-! ### What taking in blocks leaves alone -/

/-- Saying something is no matter of what is pending. -/
theorem say_withPending (p : Parser) (t : Text) (u : Utterance) :
  say (p.withPending t) u = ((say p u).1, (say p u).2.withPending t)
  := by
  by_cases h : (u.once && p.said.contains u.segment) = true
  · simp only [say, withPending, h, if_true]
  · simp only [say, withPending, h, Bool.false_eq_true, if_false]

/-- Saying several things is no matter of what is pending. -/
theorem sayAll_withPending (p : Parser) (t : Text) (us : List Utterance) :
  sayAll (p.withPending t) us = ((sayAll p us).1, (sayAll p us).2.withPending t)
  := by
  induction us generalizing p with
  | nil => rfl
  | cons u us ih => simp only [sayAll, say_withPending, ih]

/-- Taking a block is no matter of what is pending. -/
theorem takeBlock_withPending (p : Parser) (t : Text) (b : Block) :
  takeBlock (p.withPending t) b = ((takeBlock p b).1, (takeBlock p b).2.withPending t)
  := by
  simp only [takeBlock, sayAll_withPending]
  rfl

/-- Taking in blocks does not depend on the text that waits, and leaves it. -/
theorem takeBlocks_withPending (p : Parser) (t : Text) (bs : List Block) :
  takeBlocks (p.withPending t) bs = ((takeBlocks p bs).1, (takeBlocks p bs).2.withPending t)
  := by
  induction bs generalizing p with
  | nil => rfl
  | cons b bs ih => simp only [takeBlocks, takeBlock_withPending, ih]

/-- Saying something changes what was shown and said, and nothing else. -/
theorem say_frame (p : Parser) (u : Utterance) :
  ∃ ss gs, (say p u).2 = { p with segments := ss, said := gs }
  := by
  unfold say
  split_ifs
  · exact ⟨p.segments, p.said, rfl⟩
  · exact ⟨_, _, rfl⟩
  · exact ⟨_, _, rfl⟩

/-- Giving out segments changes nothing else. -/
theorem sayAll_frame (p : Parser) (us : List Utterance) :
  ∃ ss gs, (sayAll p us).2 = { p with segments := ss, said := gs }
  := by
  induction us generalizing p with
  | nil => exact ⟨p.segments, p.said, rfl⟩
  | cons u us ih =>
      obtain ⟨ss, gs, h⟩ := say_frame p u
      obtain ⟨ss', gs', h'⟩ := ih (say p u).2
      use ss', gs'
      apply Eq.trans h'
      rw [h]

/-- A block is taken by saying what it says, then taking its choices. -/
theorem takeBlock_snd (p : Parser) (b : Block) :
  (takeBlock p b).2 = takeChoices (sayAll p b.utterances).2 b
  := rfl

/-- Taking a block leaves the limit, the defaults and what is pending. -/
theorem takeBlock_frame (p : Parser) (b : Block) :
  ∃ ss gs cs done,
    (takeBlock p b).2 = { p with segments := ss, said := gs, choices := cs, complete := done }
  := by
  obtain ⟨ss, gs, h⟩ := sayAll_frame p b.utterances
  use ss, gs, (takeBlock p b).2.choices, (takeBlock p b).2.complete
  rw [takeBlock_snd, h]
  rfl

/-- Taking in blocks leaves the settings and the text that waits. -/
theorem takeBlocks_frame (p : Parser) (bs : List Block) :
  ∃ ss gs cs done,
    (takeBlocks p bs).2 = { p with segments := ss, said := gs, choices := cs, complete := done }
  := by
  induction bs generalizing p with
  | nil => exact ⟨p.segments, p.said, p.choices, p.complete, rfl⟩
  | cons b bs ih =>
      obtain ⟨ss, gs, cs, done, h⟩ := takeBlock_frame p b
      obtain ⟨ss', gs', cs', done', h'⟩ := ih (takeBlock p b).2
      use ss', gs', cs', done'
      apply Eq.trans h'
      rw [h]

/-- Taking blocks leaves the limit. -/
theorem takeBlocks_limit (p : Parser) (bs : List Block) :
  (takeBlocks p bs).2.limit = p.limit
  := by
  obtain ⟨ss, gs, cs, done, h⟩ := takeBlocks_frame p bs
  rw [h]

/-- Blocks may be taken in by parts. -/
theorem takeBlocks_append (p : Parser) (bs cs : List Block) :
  takeBlocks p (bs ++ cs)
    = ((takeBlocks p bs).1 ++ (takeBlocks (takeBlocks p bs).2 cs).1,
        (takeBlocks (takeBlocks p bs).2 cs).2)
  := by
  induction bs generalizing p with
  | nil => rfl
  | cons b bs ih => simp only [List.cons_append, takeBlocks, ih, List.append_assoc]

/-- Falling back changes only the choices and whether they are complete. -/
theorem fallBack_frame {p q : Parser} (h : fallBack p = .ok q) :
  ∃ cs done, q = { p with choices := cs, complete := done }
  := by
  unfold fallBack at h
  split_ifs at h
  · exact ⟨p.choices, p.complete, (Except.ok.inj h).symm⟩
  · split at h
    · cases h
    · exact ⟨p.choices, p.complete, (Except.ok.inj h).symm⟩
    · exact ⟨_, _, (Except.ok.inj h).symm⟩

/-- Feeding a piece leaves the settings. -/
theorem feed_frame (p : Parser) (piece : Text) :
  ∃ rest ss gs cs done, (feed p piece).2
    = { p with pending := rest, segments := ss, said := gs, choices := cs, complete := done }
  := by
  obtain ⟨ss, gs, cs, done, h⟩ := takeBlocks_frame p (Block.scan (p.pending ++ piece)).blocks
  simp only [feed, h]
  split_ifs
  · exact ⟨_, _, _, _, _, rfl⟩
  · split
    · exact ⟨_, _, _, _, _, rfl⟩
    · next hfall =>
      obtain ⟨cs', done', rfl⟩ := fallBack_frame hfall
      exact ⟨_, _, _, _, _, rfl⟩

/-! ### Without a tail limit -/

/-- A parser without a tail limit takes in the finished blocks, and is at fault exactly when
the scan meets a block whose name is not regular. -/
theorem feed_off {p : Parser} (h : p.limit = .off) (piece : Text) :
  feed p piece
    = (if (Block.scan (p.pending ++ piece)).irregular then .error .irregularName
        else .ok (takeBlocks p (Block.scan (p.pending ++ piece)).blocks).1,
      (takeBlocks p (Block.scan (p.pending ++ piece)).blocks).2.withPending
        (Block.scan (p.pending ++ piece)).rest)
  := by
  have hf (q : Parser) (hq : q.limit = .off) : fallBack q = .ok q := by
    simp [fallBack, hq, TailLimit.isOff]
  have hq := hf ((takeBlocks p (Block.scan (p.pending ++ piece)).blocks).2.withPending
    (Block.scan (p.pending ++ piece)).rest) ((takeBlocks_limit _ _).trans h)
  rw [withPending] at hq
  simp only [feed, hq]
  split_ifs <;> rfl

/-- Without a limit, feeding fails for a block with an irregular name only. -/
theorem feed_off_error_iff {p : Parser} (h : p.limit = .off) (piece : Text) (f : Fault) :
  (feed p piece).1 = .error f
    ↔ (Block.scan (p.pending ++ piece)).irregular = true ∧ f = .irregularName
  := by
  rw [feed_off h]
  dsimp only
  split_ifs with hi
  · simp [hi, eq_comm]
  · simp [hi]

theorem feed_off_limit {p : Parser} (h : p.limit = .off) (piece : Text) :
  (feed p piece).2.limit = .off
  := by
  rw [feed_off h]
  apply (takeBlocks_limit _ _).trans h

/-- The state after two pieces is the state after both at once. -/
theorem feed_feed_snd {p : Parser} (h : p.limit = .off) (t u : Text) :
  (feed (feed p t).2 u).2 = (feed p (t ++ u)).2
  := by
  rw [feed_off (feed_off_limit h t), feed_off h t, feed_off h (t ++ u), ← List.append_assoc,
    Block.scan_append (p.pending ++ t) u]
  simp only [pending_withPending, takeBlocks_withPending, withPending_withPending, Scan.after,
    takeBlocks_append]

/-- The second of two pieces meets a fault exactly when both at once do. -/
theorem feed_feed_error_iff {p : Parser} (h : p.limit = .off) (t u : Text) (f : Fault) :
  (feed (feed p t).2 u).1 = .error f ↔ (feed p (t ++ u)).1 = .error f
  := by
  rw [feed_off_error_iff (feed_off_limit h t), feed_off_error_iff h, feed_off h t,
    ← List.append_assoc, Block.scan_append (p.pending ++ t) u]
  rfl

/-- Two pieces without a fault finish the segments that both at once finish. -/
theorem feed_feed_ok {p : Parser} (h : p.limit = .off) {t u : Text} {new more : List Segment}
    (ht : (feed p t).1 = .ok new) (hu : (feed (feed p t).2 u).1 = .ok more) :
  (feed p (t ++ u)).1 = .ok (new ++ more)
  := by
  rw [feed_off (feed_off_limit h t)] at hu
  rw [feed_off h] at ht hu ⊢
  rw [← List.append_assoc, Block.scan_append (p.pending ++ t) u]
  simp only [pending_withPending, takeBlocks_withPending, Scan.after, takeBlocks_append] at ht hu ⊢
  split_ifs at ht hu ⊢
  rw [← Except.ok.inj ht, ← Except.ok.inj hu]

/-- A text that is fed without a fault is fed without one up to any place, and from there on. -/
theorem exists_feed_feed {p : Parser} (h : p.limit = .off) {t u : Text} {new : List Segment}
    (htu : (feed p (t ++ u)).1 = .ok new) :
  ∃ front back, (feed p t).1 = .ok front ∧ (feed (feed p t).2 u).1 = .ok back
    ∧ front ++ back = new
  := by
  have hback (f : Fault) : (feed (feed p t).2 u).1 ≠ .error f := by
    rw [Ne, feed_feed_error_iff h, htu]
    exact nofun
  have hfront (f : Fault) : (feed p t).1 ≠ .error f := by
    rw [Ne, feed_off_error_iff h]
    rintro ⟨hirregular, -⟩
    -- A fault of the front would be one of the whole text.
    have hwhole := Block.scan_irregular hirregular u
    rw [List.append_assoc] at hwhole
    have := (feed_off_error_iff h (t ++ u) _).mpr ⟨hwhole, rfl⟩
    rw [htu] at this
    cases this
  cases ht : (feed p t).1 with
  | error f => exact absurd ht (hfront f)
  | ok front =>
      cases hu : (feed (feed p t).2 u).1 with
      | error f => exact absurd hu (hback f)
      | ok back =>
          refine ⟨front, back, rfl, rfl, ?_⟩
          have hnew := feed_feed_ok h ht hu
          rw [htu] at hnew
          exact (Except.ok.inj hnew).symm

/-- A parser that feeding nothing leaves as it is, so that empty pieces may be left out. -/
def IsIdle (p : Parser) : Prop :=
  p.feed [] = (.ok [], p)

/-- A new parser without a limit is idle. -/
theorem isIdle_new (defaults : List Choice) :
  (new .off defaults).IsIdle
  := by
  have hscan : Block.scan [] = ⟨[], [], false⟩ := by
    rw [Block.scan, Block.scanFrom_eq]
    rfl
  have hpending : (new .off defaults).pending ++ [] = [] := rfl
  rw [IsIdle, feed_off rfl, hpending, hscan]
  rfl

/-- A parser has nothing to do behind a piece. -/
theorem isIdle_feed {p : Parser} (h : p.limit = .off) {t : Text} {new : List Segment}
    (ht : (feed p t).1 = .ok new) :
  (feed p t).2.IsIdle
  := by
  have hirregular : (Block.scan (p.pending ++ t)).irregular = false := by
    rw [feed_off h] at ht
    dsimp only at ht
    split_ifs at ht with hi
    simpa using hi
  rw [IsIdle, feed_off (feed_off_limit h t), feed_off h t]
  simp only [pending_withPending, List.append_nil, Block.scan_rest, hirregular, takeBlocks]
  rfl

/-! ### Many pieces -/

/-- Feeds pieces one after another and goes on behind a fault: what each of them gives, and
the parser afterwards. -/
def feedEach : Parser → List Text → List (Except Fault (List Segment)) × Parser
  | p, [] => ([], p)
  | p, piece :: pieces =>
    let (outcome, p) := feed p piece
    let (outcomes, p) := feedEach p pieces
    (outcome :: outcomes, p)

/-- Every piece has an outcome. -/
theorem feedEach_length (p : Parser) (pieces : List Text) :
  (feedEach p pieces).1.length = pieces.length
  := by
  induction pieces generalizing p with
  | nil => rfl
  | cons piece pieces ih => simp only [feedEach, List.length_cons, ih]

/-- However a text is cut into pieces, a parser without a tail limit comes to the same state
as with the whole text; the last piece meets a fault exactly when the whole text does; and
when no piece meets one, the pieces finish the segments that the whole text finishes. -/
theorem feedEach_eq_feed {p : Parser} (h : p.limit = .off) {pieces : List Text}
    (hne : pieces ≠ []) :
  (feedEach p pieces).2 = (feed p pieces.flatten).2
    ∧ (∀ f, (feedEach p pieces).1.getLast? = some (.error f)
        ↔ (feed p pieces.flatten).1 = .error f)
    ∧ ∀ news : List (List Segment), (feedEach p pieces).1 = news.map .ok →
        (feed p pieces.flatten).1 = .ok news.flatten
  := by
  induction pieces generalizing p with
  | nil => exact absurd rfl hne
  | cons piece pieces ih =>
      by_cases hp : pieces = []
      · subst hp
        simp only [feedEach, List.flatten_cons, List.flatten_nil, List.append_nil, true_and]
        constructor
        · simp
        · rintro (_ | ⟨new, _ | _⟩) hn <;> simp_all
      · obtain ⟨hstate, hfault, hnews⟩ := ih (feed_off_limit h piece) hp
        simp only [feedEach, List.flatten_cons]
        refine ⟨hstate.trans (feed_feed_snd h _ _), ?_, ?_⟩
        · intro f
          rw [← feed_feed_error_iff h, ← hfault, List.getLast?_cons_of_ne_nil]
          rw [← List.length_pos_iff, feedEach_length]
          apply List.length_pos_iff.mpr hp
        · rintro (_ | ⟨new, news⟩) hn
          · simp at hn
          · obtain ⟨hnew, hn⟩ := List.cons.inj hn
            apply feed_feed_ok h hnew (hnews news hn)

/-- A text that is cut inside an opener and inside a closing tag. -/
theorem feedEach_cut_inside_tags :
  (new .off []).limit = .off ∧ (["<Narr", "ator>Hi</Nar", "", "rator>"] : List Text) ≠ []
    ∧ (feedEach (new .off []) ["<Narr", "ator>Hi</Nar", "", "rator>"]).2
        = (feed (new .off []) "<Narrator>Hi</Narrator>").2
  := ⟨rfl, List.cons_ne_nil _ _, (feedEach_eq_feed rfl (List.cons_ne_nil _ _)).1⟩

end Parser

end BranchingStory
