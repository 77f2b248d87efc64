import BranchingStory.Proofs.Markup.Repetition

/-!
# Falling back on the default choices

A parser with a tail limit is compared with one without, fed the same pieces.  The two give
the same segments and keep the same text; the first shows the default choices in front of
those that the second finds exactly when, behind some piece, the second had segments but no
choices and a tail within the limit: `Parser.feedEach_falling_back`.
-/

namespace BranchingStory

/-- The limit of so many characters, or none. -/
def TailLimit.upTo : Option Int → TailLimit
  | none => off
  | some n => count n

/-- A limit of so many characters can be compared with every count. -/
theorem TailLimit.admits?_upTo (limit : Option Int) (n : Nat) :
  ∃ short, (upTo limit).admits? n = some short
  := by
  cases limit with
  | none => exact ⟨_, rfl⟩
  | some m => exact ⟨_, rfl⟩

/-- There is only one limit that is off. -/
theorem TailLimit.eq_off {limit : TailLimit} (h : limit.isOff = true) :
  limit = off
  := by
  cases limit with
  | off => rfl
  | count n => cases h
  | value v => cases h

/-! ### Offers that were offered before -/

namespace Choice

/-- A choice is offered among two lists when it is in either. -/
theorem isOffered_offerAll (id : Text) (cs ds : List Choice) :
  isOffered id (offerAll cs ds) = (isOffered id cs || isOffered id ds)
  := by
  induction ds generalizing cs with
  | nil => simp [offerAll, isOffered]
  | cons d ds ih =>
      have hstep : offerAll cs (d :: ds) = offerAll (offer cs d) ds := rfl
      have hcons : isOffered id (d :: ds) = (d.id == id || isOffered id ds) := rfl
      rw [hstep, ih, hcons, offer]
      split_ifs with hd
      · by_cases hid : d.id = id
        · rw [← hid, hd, Bool.true_or, Bool.true_or]
        · rw [beq_eq_false_iff_ne.mpr hid, Bool.false_or]
      · rw [isOffered_append, Bool.or_assoc]
        congr 1
        simp [isOffered]

/-- A choice whose name is offered is not offered again. -/
theorem offerAll_cons_of_isOffered {cs : List Choice} {c : Choice} (h : isOffered c.id cs = true)
    (ds : List Choice) :
  offerAll cs (c :: ds) = offerAll cs ds
  := by
  have hstep : offerAll cs (c :: ds) = offerAll (offer cs c) ds := rfl
  rw [hstep, offer, if_pos h]

/-- It does not matter whether choices are offered to other ones first. -/
theorem offerAll_offerAll (cs ds es : List Choice) :
  offerAll cs (offerAll ds es) = offerAll (offerAll cs ds) es
  := by
  induction es generalizing ds with
  | nil => rfl
  | cons e es ih =>
      have hstep : offerAll ds (e :: es) = offerAll (offer ds e) es := rfl
      rw [hstep, ih, offer]
      split_ifs with he
      · rw [offerAll_cons_of_isOffered]
        rw [isOffered_offerAll, he, Bool.or_true]
      · rw [← offerAll_append]
        rfl

end Choice

namespace Parser

variable {limit : Option Int} {q : Parser}

/-! ### When default choices are due -/

/-- Whether default choices are due: there are segments and no choices, nothing more is to be
expected, and the trimmed tail is within the limit. -/
def isDue (limit : TailLimit) (p : Parser) : Bool :=
  p.choices.isEmpty && !p.segments.isEmpty && !expectsMore p.pending
    && limit.admits? (Text.trim p.pending).length == some true

/-- Whether a piece is taken in without a fault and default choices are due behind it. -/
def fallsBackAt (limit : TailLimit) (p : Parser) (piece : Text) : Bool :=
  (p.feed piece).1.isOk && isDue limit (p.feed piece).2

/-- Whether default choices are due behind some of the pieces that a parser is fed. -/
def fallsBack (limit : TailLimit) : Parser → List Text → Bool
  | _, [] => false
  | p, piece :: pieces => fallsBackAt limit p piece || fallsBack limit (p.feed piece).2 pieces

/-- Without a tail limit default choices are never due. -/
theorem isDue_off (p : Parser) :
  isDue .off p = false
  := by
  simp [isDue, TailLimit.admits?]

/-- The parser that offers the default choices instead of none. -/
def fallen (p : Parser) : Parser :=
  { p with choices := Choice.firsts p.defaults, complete := true }

/-- A parser falls back exactly when default choices are due.  They are not due where its limit
cannot be compared. -/
theorem fallBack_cases (p : Parser) :
  fallBack p = .ok (if isDue p.limit p then fallen p else p)
    ∨ ∃ f, fallBack p = .error f ∧ isDue p.limit p = false
  := by
  have hdue : isDue p.limit p
      = (!(p.limit.isOff || !p.choices.isEmpty || p.segments.isEmpty || expectsMore p.pending)
        && p.limit.admits? (Text.trim p.pending).length == some true) := by
    cases hlimit : p.limit.isOff with
    | true => simp [TailLimit.eq_off hlimit, isDue_off, TailLimit.admits?]
    | false => simp [isDue]
  rw [fallBack, hdue]
  cases hno : p.limit.isOff || !p.choices.isEmpty || p.segments.isEmpty
      || expectsMore p.pending with
  | true => exact Or.inl rfl
  | false =>
      have hc : p.choices = [] := by
        simp only [Bool.or_eq_false_iff, Bool.not_eq_false'] at hno
        exact List.isEmpty_iff.mp hno.1.1.2
      cases p.limit.admits? (Text.trim p.pending).length with
      | none => exact Or.inr ⟨_, rfl, rfl⟩
      | some short =>
          left
          cases short with
          | false => rfl
          | true =>
              rw [fallen, hc, Choice.offerAll_nil]
              rfl

theorem fallBack_upTo {p : Parser} (h : p.limit = .upTo limit) :
  fallBack p = .ok (if isDue p.limit p then fallen p else p)
  := by
  obtain hok | ⟨f, herror, -⟩ := p.fallBack_cases
  · exact hok
  · obtain ⟨short, hshort⟩ := TailLimit.admits?_upTo limit (Text.trim p.pending).length
    rw [← h] at hshort
    unfold fallBack at herror
    rw [hshort] at herror
    split_ifs at herror
    cases short <;> cases herror

/-! ### Side by side -/

/-- What a parser with a tail limit shows beside one without that was fed the same, before or
after it fell back. -/
def offering (limit : TailLimit) (fell : Bool) (q : Parser) : Parser :=
  if fell then
    { q with
      limit := limit
      choices := Choice.offerAll (Choice.firsts q.defaults) q.choices
      complete := true }
  else { q with limit := limit }

/-- Without falling back only the limit is another one. -/
theorem offering_false (limit : TailLimit) (q : Parser) :
  offering limit false q = { q with limit := limit }
  := rfl

/-- Saying and offering the defaults may be done in either order. -/
theorem say_offering (limit : TailLimit) (fell : Bool) (q : Parser) (u : Utterance) :
  say (offering limit fell q) u = ((say q u).1, offering limit fell (say q u).2)
  := by
  by_cases h : (u.once && q.said.contains u.segment) = true
  · cases fell <;> simp only [say, offering, h, if_true, Bool.false_eq_true, if_false]
  · cases fell <;> simp only [say, offering, h, if_true, Bool.false_eq_true, if_false]

/-- Saying several things and offering the defaults may be done in either order. -/
theorem sayAll_offering (limit : TailLimit) (fell : Bool) (q : Parser) (us : List Utterance) :
  sayAll (offering limit fell q) us = ((sayAll q us).1, offering limit fell (sayAll q us).2)
  := by
  induction us generalizing q with
  | nil => rfl
  | cons u us ih => simp only [sayAll, say_offering, ih]

/-- Taking the choices of a block and offering the defaults may be done in either order. -/
theorem takeChoices_offering (limit : TailLimit) (fell : Bool) (q : Parser) (b : Block) :
  takeChoices (offering limit fell q) b = offering limit fell (takeChoices q b)
  := by
  cases fell with
  | false => rfl
  | true => simp [takeChoices, offering, Choice.offerAll_offerAll]

/-- Both take in the same blocks in the same way. -/
theorem takeBlocks_offering (limit : TailLimit) (fell : Bool) (q : Parser) (bs : List Block) :
  takeBlocks (offering limit fell q) bs
    = ((takeBlocks q bs).1, offering limit fell (takeBlocks q bs).2)
  := by
  induction bs generalizing q with
  | nil => rfl
  | cons b bs ih =>
      simp only [takeBlocks, takeBlock, sayAll_offering, takeChoices_offering, ih]

theorem limit_offering (limit : TailLimit) (fell : Bool) (q : Parser) :
  (offering limit fell q).limit = limit
  := by
  cases fell <;> rfl

/-- Offering the defaults leaves what is pending. -/
theorem pending_offering (limit : TailLimit) (fell : Bool) (q : Parser) :
  (offering limit fell q).pending = q.pending
  := by
  cases fell <;> rfl

theorem offering_withPending (limit : TailLimit) (fell : Bool) (q : Parser) (t : Text) :
  (offering limit fell q).withPending t = offering limit fell (q.withPending t)
  := by
  cases fell <;> rfl

/-- The parser with the tail limit falls back when default choices are due to the other one;
it does not do so twice. -/
theorem fallBack_offering (limit : Option Int) (fell : Bool) (q : Parser) :
  fallBack (offering (.upTo limit) fell q)
    = .ok (offering (.upTo limit) (fell || isDue (.upTo limit) q) q)
  := by
  cases fell with
  | false =>
      rw [fallBack_upTo (limit_offering _ _ _), Bool.false_or]
      have hdue : isDue (offering (.upTo limit) false q).limit (offering (.upTo limit) false q)
          = isDue (.upTo limit) q := rfl
      rw [hdue]
      split_ifs with h
      · have hc : q.choices = [] := by
          simp only [isDue, Bool.and_eq_true, List.isEmpty_iff] at h
          exact h.1.1.1
        have hnil : Choice.offerAll (Choice.firsts q.defaults) [] = Choice.firsts q.defaults := rfl
        simp only [h, fallen, offering, hc, hnil, if_true, Bool.false_eq_true, if_false]
      · rw [Bool.not_eq_true _ |>.mp h]
  | true =>
      rw [fallBack_upTo (limit_offering _ _ _), Bool.true_or]
      split_ifs with h
      · -- Only without any default choices are they due again.
        have hc : Choice.offerAll (Choice.firsts q.defaults) q.choices = [] := by
          simp only [isDue, offering, if_true, Bool.and_eq_true, List.isEmpty_iff] at h
          exact h.1.1.1
        have hd : Choice.firsts q.defaults = [] := by
          rw [Choice.offerAll_eq] at hc
          exact (List.append_eq_nil_iff.mp hc).1
        have hfallen : fallen (offering (.upTo limit) true q)
            = { offering (.upTo limit) true q with choices := [] } := by
          simp [fallen, offering, hd]
        rw [hfallen, ← hc]
        rfl
      · rfl

/-- Fed the same piece, the two give the same segments or fault, and go on side by side. -/
theorem feed_offering (h : q.limit = .off) (limit : Option Int) (fell : Bool) (piece : Text) :
  feed (offering (.upTo limit) fell q) piece
    = ((feed q piece).1,
      offering (.upTo limit) (fell || fallsBackAt (.upTo limit) q piece) (feed q piece).2)
  := by
  rw [fallsBackAt, feed_off h]
  simp only [feed, pending_offering, takeBlocks_offering]
  split_ifs with hirregular
  · simp only [Except.isOk, Except.toBool, Bool.false_and, Bool.or_false]
    rw [← offering_withPending]
    rfl
  · have hfall := fallBack_offering limit fell
      ((takeBlocks q (Block.scan (q.pending ++ piece)).blocks).2.withPending
        (Block.scan (q.pending ++ piece)).rest)
    rw [← offering_withPending, withPending] at hfall
    simp only [hfall, Except.isOk, Except.toBool, Bool.true_and]

/-- A parser with a limit follows the one without, and offers the defaults when it falls back. -/
theorem feedEach_offering (h : q.limit = .off) (limit : Option Int) (fell : Bool)
    (pieces : List Text) :
  feedEach (offering (.upTo limit) fell q) pieces
    = ((feedEach q pieces).1,
      offering (.upTo limit) (fell || fallsBack (.upTo limit) q pieces) (feedEach q pieces).2)
  := by
  induction pieces generalizing q fell with
  | nil => simp [feedEach, fallsBack]
  | cons piece pieces ih =>
      simp only [feedEach, feed_offering h, ih (feed_off_limit h piece), fallsBack, Bool.or_assoc]

/-! ### Other cuts -/

/-- When default choices are due behind a text, they are due behind some piece of it, however
it is cut. -/
theorem fallsBack_of_flatten {limit : TailLimit} (h : q.limit = .off) {pieces : List Text}
    (hne : pieces ≠ []) (hdue : fallsBackAt limit q pieces.flatten = true) :
  fallsBack limit q pieces = true
  := by
  induction pieces generalizing q with
  | nil => exact absurd rfl hne
  | cons piece pieces ih =>
      rw [fallsBack, Bool.or_eq_true]
      by_cases hp : pieces = []
      · subst hp
        rw [List.flatten_singleton] at hdue
        exact Or.inl hdue
      · right
        apply ih (feed_off_limit h piece) hp
        rw [fallsBackAt, feed_feed_snd h]
        rw [List.flatten_cons, fallsBackAt, Bool.and_eq_true] at hdue
        rw [hdue.2, Bool.and_true]
        cases hlast : (feed (feed q piece).2 pieces.flatten).1 with
        | ok new => rfl
        | error f =>
            rw [(feed_feed_error_iff h _ _ f).mp hlast] at hdue
            cases hdue.1

/-- Feeding pieces leaves the default choices of a parser. -/
theorem defaults_feedEach (p : Parser) (pieces : List Text) :
  (feedEach p pieces).2.defaults = p.defaults
  := by
  induction pieces generalizing p with
  | nil => rfl
  | cons piece pieces ih =>
      obtain ⟨rest, ss, gs, cs, done, h⟩ := feed_frame p piece
      rw [feedEach]
      apply (ih _).trans
      rw [h]

/-- The choices that a parser without a tail limit finds have one name each. -/
theorem firsts_choices_feedEach (defaults : List Choice) (pieces : List Text) :
  Choice.firsts (feedEach (new .off defaults) pieces).2.choices
    = (feedEach (new .off defaults) pieces).2.choices
  := by
  by_cases hne : pieces = []
  · subst hne
    rfl
  · have hchoices : (feed (new .off defaults) pieces.flatten).2.choices
        = Choice.firsts ((Block.scan pieces.flatten).blocks.flatMap (·.choices)) := by
      rw [feed_off rfl, ← Choice.offerAll_nil]
      apply takeBlocks_choices
    rw [(feedEach_eq_feed rfl hne).1, hchoices]
    exact Choice.firsts_of_nodup (Choice.nodup_firsts _)

/-- Whatever the tail limit, the default choices and the pieces: the outcomes, the segments and
the text that waits are those of a parser without a tail limit.  Its choices are those that
the other finds, with the default ones in front, and without those whose names they have,
exactly when default choices were due behind some piece.  When they are due behind the whole
text, the default choices are all there is in the end, and complete, however the text is
cut. -/
theorem feedEach_falling_back (limit : Option Int) (defaults : List Choice)
    (pieces : List Text) :
  let plain := feedEach (new .off defaults) pieces
  let shown := feedEach (new (.upTo limit) defaults) pieces
  shown.1 = plain.1 ∧ shown.2.segments = plain.2.segments ∧ shown.2.pending = plain.2.pending
    ∧ shown.2.choices
        = (if fallsBack (.upTo limit) (new .off defaults) pieces then
            Choice.firsts defaults
              ++ plain.2.choices.filter (!Choice.isOffered ·.id (Choice.firsts defaults))
          else plain.2.choices)
    ∧ (fallsBack (.upTo limit) (new .off defaults) [pieces.flatten] = true →
        shown.2.complete = true ∧ shown.2.choices = Choice.firsts defaults)
  := by
  intro plain shown
  have hshown : shown = (plain.1,
      offering (.upTo limit) (fallsBack (.upTo limit) (new .off defaults) pieces) plain.2) :=
    feedEach_offering (q := new .off defaults) rfl limit false pieces
  have hdefaults : plain.2.defaults = defaults := defaults_feedEach _ _
  have hchoices : shown.2.choices
      = (if fallsBack (.upTo limit) (new .off defaults) pieces then
          Choice.firsts defaults
            ++ plain.2.choices.filter (!Choice.isOffered ·.id (Choice.firsts defaults))
        else plain.2.choices) := by
    rw [hshown, offering]
    split_ifs
    · rw [hdefaults]
      apply (Choice.offerAll_eq _ _).trans
      rw [firsts_choices_feedEach]
    · rfl
  refine ⟨by rw [hshown], ?_, ?_, hchoices, ?_⟩
  · rw [hshown, offering]
    split_ifs <;> rfl
  · rw [hshown, pending_offering]
  · intro hdue
    rw [fallsBack, fallsBack, Bool.or_false] at hdue
    have hne : pieces ≠ [] := by
      rintro rfl
      rw [List.flatten_nil, fallsBackAt, isIdle_new defaults] at hdue
      simp [isDue, new] at hdue
    have hfell := fallsBack_of_flatten rfl hne hdue
    -- Behind the whole text no choices were found.
    have hnone : plain.2.choices = [] := by
      rw [fallsBackAt, isDue] at hdue
      simp only [Bool.and_eq_true, List.isEmpty_iff] at hdue
      have hstate : plain.2 = (feed (new .off defaults) pieces.flatten).2 :=
        (feedEach_eq_feed rfl hne).1
      rw [hstate]
      exact hdue.2.1.1.1
    rw [hchoices, hfell, if_pos rfl, hnone, hshown, hfell]
    exact ⟨rfl, by simp⟩

/-- The default choices stand in front of those of a block that comes too late. -/
theorem feedEach_falling_back_late :
  ∃ shown, feedEach (new (.upTo (some 50)) defaultChoices)
      ["<Narrator>Hi</Narrator>\n",
        "<choices><choice id='talk_zhongli'>Tea</choice><choice id='go'>Go</choice></choices>"]
        = shown
    ∧ shown.2.choices = defaultChoices ++ [⟨"go", "Go", false⟩]
    ∧ shown.2.pending = []
  := by
  have h := feedEach_falling_back (some 50) defaultChoices
    ["<Narrator>Hi</Narrator>\n",
      "<choices><choice id='talk_zhongli'>Tea</choice><choice id='go'>Go</choice></choices>"]
  obtain ⟨-, -, hpending, hchoices, -⟩ := h
  refine ⟨_, rfl, hchoices.trans ?_, hpending.trans ?_⟩
  · decide +kernel
  · decide +kernel

end Parser

end BranchingStory
