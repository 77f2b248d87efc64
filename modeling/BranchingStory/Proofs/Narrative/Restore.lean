import BranchingStory.Proofs.Narrative.InPieces

/-!
# Sessions that go on from a snapshot

A snapshot keeps the state of the threads and nothing of the current step.  Whatever a session
was made to do, its settings stay as they were given, and a choice begins its step with a new
parser.  So a session restored from the snapshot takes every later choice as the session itself
does: `Session.chooseEach_restore`.
-/

namespace BranchingStory

namespace Parser

/-- Behind a piece at fault no further piece is fed. -/
theorem feedAll_cons_snd (p : Parser) (piece : Text) (pieces : List Text) :
  (p.feedAll (piece :: pieces)).2
    = if (p.feed piece).1.isOk then ((p.feed piece).2.feedAll pieces).2 else (p.feed piece).2
  := by
  rw [feedAll]
  cases p.feed piece with
  | mk outcome q =>
      cases outcome with
      | error f => rfl
      | ok new =>
          cases hall : q.feedAll pieces with
          | mk outcome r => cases outcome <;> simp only [hall] <;> rfl

/-- Feeding pieces leaves the default choices. -/
theorem defaults_feedAll (p : Parser) (pieces : List Text) :
  (p.feedAll pieces).2.defaults = p.defaults
  := by
  induction pieces generalizing p with
  | nil => rfl
  | cons piece pieces ih =>
      obtain ⟨_, _, _, _, _, hframe⟩ := feed_frame p piece
      have hdefaults : (p.feed piece).2.defaults = p.defaults := by rw [hframe]
      rw [feedAll_cons_snd]
      split_ifs
      · rw [ih, hdefaults]
      · exact hdefaults

end Parser

namespace Session

/-- What a session may be made to do. -/
inductive Call where
  | begin (fragment : Text) (final : Bool)
  | feed (t : Text)
  | choose (id : Text)

/-- The session behind a call, also behind one that is at fault. -/
def call (s : Session) : Call → Session
  | .begin fragment final => (s.begin fragment final).2
  | .feed t => (s.feed t).2
  | .choose id => (s.choose id).2

/-- The session behind calls, one after another. -/
def callAll (s : Session) (calls : List Call) : Session :=
  calls.foldl call s

/-- A session with the tail limit, the size of the pieces and the default choices that it was
given. -/
structure IsSetUp (limit : TailLimit) (chunkSize : Option Int) (s : Session) : Prop where
  limit : s.limit = limit
  chunkSize : s.chunkSize = chunkSize
  defaults : s.parser.defaults = Parser.defaultChoices

variable {limit : TailLimit} {chunkSize : Option Int} {s : Session}

/-- A new session is set up as it was asked for. -/
theorem isSetUp_new (completed : List Text) (progress : Progress) (limit : TailLimit)
    (chunkSize : Option Int) :
  (new completed progress limit chunkSize).IsSetUp limit chunkSize
  := ⟨rfl, rfl, rfl⟩

/-- Feeding text leaves the setup of a session. -/
theorem IsSetUp.feed (h : s.IsSetUp limit chunkSize) (t : Text) :
  (s.feed t).2.IsSetUp limit chunkSize
  := ⟨h.limit, h.chunkSize, (Parser.defaults_feedAll s.parser _).trans h.defaults⟩

/-- Beginning a step is feeding its fragment to a new parser. -/
theorem begin_snd (s : Session) (fragment : Text) (final : Bool) :
  (s.begin fragment final).2
    = (Session.feed { s with
        parser := .new (if final then .off else s.limit) s.parser.defaults
        finished := final } fragment).2
  := by
  unfold begin
  dsimp only
  split
  · next hfeed => rw [hfeed]
  · next hfeed => rw [hfeed]

/-- A session is finished when it begins with a final fragment. -/
theorem finished_begin (s : Session) (fragment : Text) (final : Bool) :
  (s.begin fragment final).2.finished = final
  := by
  rw [begin_snd]
  rfl

/-- Beginning a fragment leaves the setup of a session. -/
theorem IsSetUp.begin (h : s.IsSetUp limit chunkSize) (fragment : Text) (final : Bool) :
  (s.begin fragment final).2.IsSetUp limit chunkSize
  := by
  rw [begin_snd]
  apply IsSetUp.feed
  exact ⟨h.limit, h.chunkSize, h.defaults⟩

/-- Taking a choice leaves the setup of a session. -/
theorem IsSetUp.choose (h : s.IsSetUp limit chunkSize) (id : Text) :
  (s.choose id).2.IsSetUp limit chunkSize
  := by
  apply IsSetUp.begin
  exact ⟨h.limit, h.chunkSize, h.defaults⟩

/-- Whatever a session is made to do, its settings stay. -/
theorem IsSetUp.call (h : s.IsSetUp limit chunkSize) (c : Call) :
  (s.call c).IsSetUp limit chunkSize
  := by
  cases c with
  | begin fragment final => apply h.begin
  | feed t => apply h.feed
  | choose id => apply h.choose

/-- No calls change the setup of a session. -/
theorem IsSetUp.callAll (h : s.IsSetUp limit chunkSize) (calls : List Call) :
  (s.callAll calls).IsSetUp limit chunkSize
  := by
  induction calls generalizing s with
  | nil => exact h
  | cons c calls ih => apply ih (h.call c)

/-- A session restored from a snapshot takes choices like the session that it was taken from. -/
theorem IsSetUp.like_restore (h : s.IsSetUp limit chunkSize) :
  (restore s.snapshot limit chunkSize).Like s
  := ⟨rfl, rfl, h.limit.symm, h.chunkSize.symm, h.defaults.symm⟩

/-- Whatever a session was made to do since it was new, also when some of it was at fault: a
session that is restored from its snapshot with the same tail limit and size of pieces gives the
same for every one of the choices that are taken next, and is the same session behind it, with
the same state of the threads, the same choices and the same text that waits for more. -/
theorem chooseEach_restore (completed : List Text) (progress : Progress) (limit : TailLimit)
    (chunkSize : Option Int) (calls : List Call) (ids : List Text) :
  let s := (new completed progress limit chunkSize).callAll calls
  (restore s.snapshot limit chunkSize).chooseEach ids = s.chooseEach ids
  := by
  intro s
  have hs : s.IsSetUp limit chunkSize :=
    (isSetUp_new completed progress limit chunkSize).callAll calls
  apply hs.like_restore.chooseEach_eq

end Session

end BranchingStory
