import BranchingStory.Narrative.Session
import BranchingStory.Proofs.Narrative.Scene

/-!
# Turns

What a session shows when a step begins.  A session that parses every fragment in one piece
offers the choices of the scene that a choice leads to, none behind the epilogue, and the
default ones behind the opening.
-/

namespace BranchingStory

/-- What a plain script shows: its segments and the first choice of every name. -/
def Script.turn (s : Script) : Turn where
  segments := s.segments
  choices := Choice.firsts s.offers
  complete := !(Choice.firsts s.offers).isEmpty

namespace Session

variable {s : Session}

/-- Two sessions that show the same when a step begins or a choice is taken: the parser of the
step before matters only for its default choices, and whether the story had ended does not
matter. -/
structure Like (s s' : Session) : Prop where
  completed : s.completed = s'.completed
  progress : s.progress = s'.progress
  limit : s.limit = s'.limit
  chunkSize : s.chunkSize = s'.chunkSize
  defaults : s.parser.defaults = s'.parser.defaults

/-- A session with another parser of the same defaults is like the first one. -/
theorem like_withParser (s : Session) {q : Parser} (hq : q.defaults = s.parser.defaults)
    (finished : Bool) :
  Like { s with parser := q, finished := finished } s
  := ⟨rfl, rfl, rfl, rfl, hq⟩

/-- Sessions that are alike begin alike. -/
theorem Like.begin_eq {s' : Session} (h : s.Like s') (t : Text) (final : Bool) :
  s.begin t final = s'.begin t final
  := by
  unfold begin
  rw [h.completed, h.progress, h.limit, h.chunkSize, h.defaults]

/-- Sessions that are alike take a choice alike. -/
theorem Like.choose_eq {s' : Session} (h : s.Like s') (id : Text) :
  s.choose id = s'.choose id
  := by
  have hadopt (r : Route) : (s.adopt r).Like (s'.adopt r) :=
    ⟨rfl, rfl, h.limit, h.chunkSize, h.defaults⟩
  unfold choose
  rw [h.completed, h.progress]
  apply (hadopt _).begin_eq

/-! ### How a step begins -/

theorem feed_whole (h : s.chunkSize = none) (t : Text) :
  s.feed t = ((s.parser.feed t).1, { s with parser := (s.parser.feed t).2 })
  := by
  rw [feed, h, cut, Parser.feedAll]
  cases hf : s.parser.feed t with
  | mk outcome p =>
      cases outcome with
      | error e => rfl
      | ok new => simp [Parser.feedAll]

/-- A step that a new parser takes in without a fault. -/
theorem begin_of_feed (h : s.chunkSize = none) {t : Text} {final : Bool}
    {new : List Segment} {q : Parser}
    (hq : (Parser.new (if final then .off else s.limit) s.parser.defaults).feed t = (.ok new, q)) :
  s.begin t final
    = (.ok ⟨new, q.choices, q.complete⟩, { s with parser := q, finished := final })
  := by
  have hfeed := feed_whole (s := { s with
    parser := .new (if final then .off else s.limit) s.parser.defaults, finished := final }) h t
  rw [hq] at hfeed
  simp only [begin, hfeed]

/-- The choices of a turn are those of the parser that took its step in. -/
theorem current_of_begin {t : Text} {final : Bool} {turn : Turn} {s' : Session}
    (h : s.begin t final = (.ok turn, s')) :
  turn.choices = s'.parser.choices
  := by
  unfold begin at h
  dsimp only at h
  split at h
  · cases h
  · cases h
    rfl

/-- A step that begins with a text that a new parser takes in without a fault. -/
theorem exists_begin (h : s.chunkSize = none) {t : Text} (final : Bool)
    (hreads :
      ((Parser.new (if final then .off else s.limit) s.parser.defaults).feed t).1.isOk = true) :
  ∃ turn s', s.begin t final = (.ok turn, s') ∧ s'.Like s ∧ s'.finished = final
  := by
  obtain ⟨rest, ss, gs, cs, done, hframe⟩ :=
    Parser.feed_frame (.new (if final then .off else s.limit) s.parser.defaults) t
  cases hq : (Parser.new (if final then .off else s.limit) s.parser.defaults).feed t with
  | mk outcome q =>
      rw [hq] at hreads hframe
      obtain rfl : q = _ := hframe
      cases outcome with
      | error e => cases hreads
      | ok new =>
          refine ⟨_, _, begin_of_feed h hq, ?_, rfl⟩
          apply like_withParser
          rfl

/-- A step that begins with a plain script shows its segments, and the choices that the parser
has when it may have fallen back on the default ones. -/
theorem begin_script (h : s.chunkSize = none) {script : Script} (hp : script.IsPlain)
    (final : Bool) :
  ∃ q : Parser, q.limit = (if final then .off else s.limit)
    ∧ q.defaults = s.parser.defaults
    ∧ q.segments = script.segments ∧ q.choices = Choice.firsts script.offers
    ∧ q.complete = !(Choice.firsts script.offers).isEmpty ∧ q.pending = script.tail
    ∧ ∀ q', q.fallBack = .ok q' →
      s.begin script.print final
        = (.ok ⟨script.segments, q'.choices, q'.complete⟩,
          { s with parser := q', finished := final })
  := by
  obtain ⟨q, hq, hlimit, hdefaults, hsegments, hchoices, hcomplete, hpending⟩ :=
    Parser.feed_script (if final then .off else s.limit) s.parser.defaults hp
  refine ⟨q, hlimit, hdefaults, hsegments, hchoices, hcomplete, hpending, ?_⟩
  intro q' hfall
  rw [hfall] at hq
  apply begin_of_feed h hq

/-- A step that begins with a plain script that offers something, or is the last one, shows the
script, whatever the tail limit is. -/
theorem begin_turn (h : s.chunkSize = none) {script : Script} (hp : script.IsPlain)
    {final : Bool} (hany : final = true ∨ Choice.firsts script.offers ≠ []) :
  ∃ q : Parser, q.defaults = s.parser.defaults
    ∧ s.begin script.print final = (.ok script.turn, { s with parser := q, finished := final })
  := by
  obtain ⟨q, hlimit, hdefaults, -, hchoices, hcomplete, -, hbegin⟩ := begin_script h hp final
  have hfall : q.fallBack = .ok q := by
    rw [Parser.fallBack, hlimit, hchoices]
    obtain rfl | hany := hany
    · rfl
    · simp [hany]
  have hq := hbegin q hfall
  rw [hchoices, hcomplete] at hq
  exact ⟨q, hdefaults, hq⟩

/-- A step that begins with passages offers what they offer first under every name, if that
is anything or the step is the last one. -/
theorem begin_printAll (h : s.chunkSize = none) (gap : Text) {ps : List Passage}
    (hgap : '<' ∉ gap) (hps : ∀ p ∈ ps, p.IsPlain) (final : Bool)
    (hany : final = true ∨ Choice.firsts (ps.flatMap (·.offers)) ≠ []) :
  ∃ turn q, s.begin (Passage.printAll gap ps) final
      = (.ok turn, { s with parser := q, finished := final })
    ∧ turn.choices = Choice.firsts (ps.flatMap (·.offers))
  := by
  obtain ⟨script, hplain, hprint, -, hoffers⟩ := Script.exists_print_eq hgap hps
  rw [← hoffers] at hany ⊢
  obtain ⟨q, -, hbegin⟩ := begin_turn h hplain hany
  rw [← hprint] at hbegin
  exact ⟨_, q, hbegin, rfl⟩

/-- The route that a session takes with a choice, when its threads are in order. -/
theorem choose_eq {es : Entries Stage} (h : Threads s.completed es)
    (hes : s.progress = .ofStages es) (id : Text) :
  s.choose id
    = (s.adopt (Route.ofKind s.completed es (ChoiceKind.ofId id))).begin
        (Route.ofKind s.completed es (ChoiceKind.ofId id)).fragment
        (Route.ofKind s.completed es (ChoiceKind.ofId id)).final
  := by
  rw [choose, Route.resolve, hes, Progress.stages_ofStages,
    Route.distinct_of_nodup h.completedNodup]

/-- A choice that fits and does not end the story leads to a scene. -/
theorem choose_scene (h : s.chunkSize = none) {es : Entries Stage}
    (ht : Threads s.completed es) (hes : s.progress = .ofStages es) {id : Text}
    (hid : (ChoiceKind.ofId id).Fits s.completed es) (hne : ChoiceKind.ofId id ≠ .endStory) :
  ∃ turn q es' scene, s.choose id = (.ok turn, q) ∧ Threads q.completed es'
    ∧ q.progress = .ofStages es' ∧ q.finished = false
    ∧ turn.choices = Scene.offers q.completed es' scene
    ∧ (Route.showsHub (ChoiceKind.ofId id) = true → scene = .hub)
  := by
  obtain ⟨hfinal, scene, hfragment, hhub⟩ := Route.exists_scene hid hne
  have hthreads := Route.ofKind_threads ht hid
  rw [choose_eq ht hes, hfinal, hfragment]
  generalize Route.ofKind s.completed es (ChoiceKind.ofId id) = r at hthreads ⊢
  have hfirsts : Choice.firsts ((scene.passages r.completed r.progress).flatMap (·.offers))
      = scene.offers r.completed r.progress :=
    Choice.firsts_of_nodup (Scene.nodup_ids r.completed r.progress scene)
  obtain ⟨turn, q, hbegin, hchoices⟩ := begin_printAll (s := s.adopt r) h "\n\n"
    (by decide) (Scene.isPlain_passages r.completed r.progress scene) false
    (Or.inr (by
      rw [hfirsts]
      apply Scene.offers_ne_nil))
  rw [hfirsts] at hchoices
  exact ⟨turn, _, r.progress, scene, hbegin, hthreads, rfl, rfl, hchoices, hhub⟩

/-- The choice that ends the story leaves nothing to choose. -/
theorem choose_endStory (h : s.chunkSize = none) {es : Entries Stage}
    (ht : Threads s.completed es) (hes : s.progress = .ofStages es) {id : Text}
    (hid : ChoiceKind.ofId id = .endStory) :
  ∃ turn q, s.choose id = (.ok turn, q) ∧ q.completed = s.completed
    ∧ q.progress = .ofStages es ∧ q.finished = true ∧ turn.choices = []
  := by
  rw [choose_eq ht hes, hid]
  obtain ⟨turn, q, hbegin, hchoices⟩ := begin_printAll
    (s := s.adopt (Route.ofKind s.completed es .endStory)) h "\n" (by decide)
    Fragment.isPlain_epilogue true (Or.inl rfl)
  exact ⟨turn, _, hbegin, rfl, rfl, rfl, hchoices⟩

/-! ### Whatever choice is taken -/

/-- Whatever the threads and the choice, a route shows a plain script that offers something,
unless it is the last one. -/
theorem exists_script (id : Text) (completed : List Text) (p : Progress) :
  ∃ script : Script, script.IsPlain ∧ (Route.resolve id completed p).fragment = script.print
    ∧ ((Route.resolve id completed p).final = true ∨ Choice.firsts script.offers ≠ [])
  := by
  obtain ⟨gap, ps, hgap, hps, hfragment, hany⟩ :=
    Route.exists_passages (Route.distinct completed) p.stages (ChoiceKind.ofId id)
  obtain ⟨script, hplain, hprint, -, hoffers⟩ := Script.exists_print_eq hgap hps
  rw [← hoffers] at hany
  exact ⟨script, hplain, hfragment.trans hprint, hany.imp_right Choice.firsts_ne_nil⟩

/-- Whatever the choice, it is taken without a fault and shows the script of its route. -/
theorem choose_turn (h : s.chunkSize = none) (id : Text) :
  ∃ (script : Script) (s' : Session), script.IsPlain
    ∧ (Route.resolve id s.completed s.progress).fragment = script.print
    ∧ s.choose id = (.ok script.turn, s')
    ∧ s'.Like (s.adopt (Route.resolve id s.completed s.progress))
    ∧ s'.finished = (Route.resolve id s.completed s.progress).final
  := by
  obtain ⟨script, hplain, hfragment, hany⟩ := exists_script id s.completed s.progress
  obtain ⟨q, hdefaults, hbegin⟩ := begin_turn
    (s := s.adopt (Route.resolve id s.completed s.progress)) h hplain hany
  refine ⟨script, _, hplain, hfragment, ?_, like_withParser _ hdefaults _, rfl⟩
  rw [choose, hfragment, hbegin]

/-! ### The opening -/

/-- Behind the opening the default choices are offered. -/
theorem begin_prologue (h : s.chunkSize = none) (hlimit : s.limit = Parser.defaultLimit) :
  ∃ turn q, s.begin Fragment.prologue false = (.ok turn, q)
    ∧ turn.choices = Choice.firsts s.parser.defaults
  := by
  have hline : '<' ∉ ("\n" : Text) := by decide
  have hplain : (Script.ofPassages "\n" "\n" Fragment.prologuePassages).IsPlain :=
    Script.isPlain_ofPassages hline hline Fragment.isPlain_prologue
  have hsegments : (Script.ofPassages "\n" "\n" Fragment.prologuePassages).segments ≠ [] := by
    apply Script.segments_ne_nil
    decide
  have hoffers : (Script.ofPassages "\n" "\n" Fragment.prologuePassages).offers = [] := rfl
  have hprint : (Script.ofPassages "\n" "\n" Fragment.prologuePassages).print
      = Fragment.prologue := Script.print_ofPassages _ _ _
  have htail := Script.tail_ofPassages "\n" "\n" Fragment.prologuePassages
  obtain ⟨q, hl, hd, hs, hc, -, hp, hbegin⟩ := begin_script h hplain false
  rw [hoffers] at hc
  rw [htail] at hp
  rw [if_neg (by simp), hlimit] at hl
  have hmore : Parser.expectsMore "\n" = false := by decide
  have hshort : Parser.defaultLimit.admits? (Text.trim "\n").length = some true := by
    decide
  have hfall : q.fallBack = .ok
      { q with choices := Choice.offerAll [] q.defaults, complete := true } := by
    have hsome : q.segments.isEmpty = false := by
      rw [hs]
      simpa using hsegments
    simp only [Parser.fallBack, hl, hc, hp, hsome, hmore, hshort]
    rfl
  have hq := hbegin _ hfall
  rw [hprint] at hq
  refine ⟨_, _, hq, ?_⟩
  rw [← hd]
  apply Choice.offerAll_nil

end Session

end BranchingStory
