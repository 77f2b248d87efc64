import BranchingStory.Proofs.Client.Agreement
import BranchingStory.Proofs.Markup.Fallback
import BranchingStory.Proofs.Narrative.Rising

/-!
# Sessions that parse in pieces

A session that parses fragments in pieces goes through the same threads as one that parses them
whole, and shows the same segments.  It shows the same choices as well, unless default choices
are due behind some piece of a fragment, before the fragment's own choices are read: then the
default ones stand in front.  See `Session.chooseEach_inPieces`.
-/

namespace BranchingStory

/-! ### Pieces of a fragment -/

namespace Parser

variable {q : Parser} {pieces : List Text} {new : List Segment}

/-- The first piece is fed to the parser, and the others to what it is then. -/
theorem feedEach_cons (p : Parser) (piece : Text) (pieces : List Text) :
  feedEach p (piece :: pieces)
    = ((p.feed piece).1 :: (feedEach (p.feed piece).2 pieces).1,
      (feedEach (p.feed piece).2 pieces).2)
  := rfl

/-- When no piece has a fault, it does not matter that a fault would have been the end. -/
theorem feedAll_of_feedEach {p : Parser} {news : List (List Segment)}
    (h : (feedEach p pieces).1 = news.map .ok) :
  feedAll p pieces = (.ok news.flatten, (feedEach p pieces).2)
  := by
  induction pieces generalizing p news with
  | nil =>
      obtain rfl : news = [] := List.map_eq_nil_iff.mp h.symm
      rfl
  | cons piece pieces ih =>
      cases news with
      | nil => cases h
      | cons new news =>
          rw [feedEach_cons] at h ⊢
          obtain ⟨hnew, hnews⟩ := List.cons.inj h
          have hfeed : p.feed piece = (.ok new, (p.feed piece).2) := Prod.ext hnew rfl
          have hall := ih hnews
          rw [feedAll, hfeed]
          simp only [hall, List.flatten_cons]

/-- Pieces of a text that has no fault have none, and finish what the text finishes. -/
theorem exists_feedEach (h : q.limit = .off) (hidle : q.IsIdle)
    (hwhole : (q.feed pieces.flatten).1 = .ok new) :
  ∃ news : List (List Segment),
    feedEach q pieces = (news.map .ok, (q.feed pieces.flatten).2) ∧ news.flatten = new
  := by
  induction pieces generalizing q new with
  | nil =>
      rw [List.flatten_nil, hidle] at hwhole
      refine ⟨[], ?_, Except.ok.inj hwhole⟩
      rw [List.flatten_nil, hidle]
      rfl
  | cons piece pieces ih =>
      rw [List.flatten_cons] at hwhole
      obtain ⟨front, back, hfront, hback, rfl⟩ := exists_feed_feed h hwhole
      obtain ⟨news, hnews, rfl⟩ := ih (feed_off_limit h piece) (isIdle_feed h hfront) hback
      refine ⟨front :: news, ?_, rfl⟩
      rw [feedEach_cons, hnews, hfront, List.flatten_cons, ← feed_feed_snd h]
      rfl

/-- A new parser is fed the pieces of a text that has no fault: they finish what the text
finishes, and what is shown then is offered as the pieces make the parser fall back. -/
theorem feedAll_offering {defaults : List Choice} {fed : Parser}
    (hwhole : (Parser.new .off defaults).feed pieces.flatten = (.ok new, fed))
    (limit : Option Int) :
  feedAll (Parser.new (.upTo limit) defaults) pieces
    = (.ok new,
      offering (.upTo limit) (fallsBack (.upTo limit) (Parser.new .off defaults) pieces) fed)
  := by
  obtain ⟨news, hplain, rfl⟩ := exists_feedEach rfl (isIdle_new defaults)
    (congrArg Prod.fst hwhole)
  have hshown : feedEach (Parser.new (.upTo limit) defaults) pieces = _ :=
    feedEach_offering (q := Parser.new .off defaults) rfl limit false pieces
  rw [hplain, hwhole] at hshown
  rw [feedAll_of_feedEach (congrArg Prod.fst hshown), hshown]
  rfl

/-- A parser without a tail limit has no default choices due behind any piece. -/
theorem fallsBack_off (q : Parser) (pieces : List Text) :
  fallsBack .off q pieces = false
  := by
  induction pieces generalizing q with
  | nil => rfl
  | cons piece pieces ih => rw [fallsBack, fallsBackAt, isDue_off, Bool.and_false, ih]; rfl

end Parser

/-! ### Fragments without the first of the default choices -/

namespace Route

/-- The fragment of a route is that of a thread, the hub or the epilogue. -/
theorem fragment_cases {κ : Type} [ThreadName κ] [DecidableEq κ] [BEq κ] (completed : List κ)
    (es : List (κ × Stage)) (k : ChoiceKind) :
  (∃ c s, (ofKind completed es k).fragment = Fragment.text c s)
    ∨ (∃ names : List κ, (ofKind completed es k).fragment = Hub.text names)
    ∨ (ofKind completed es k).fragment = Fragment.epilogue ∧ (ofKind completed es k).final = true
  := by
  cases k with
  | talk c => exact Or.inl ⟨c, _, rfl⟩
  | stageOne c => exact Or.inl ⟨c, _, rfl⟩
  | stageTwo c => exact Or.inl ⟨c, _, rfl⟩
  | returnToHub c => exact Or.inr (Or.inl ⟨_, rfl⟩)
  | chooseOther => exact Or.inr (Or.inl ⟨_, rfl⟩)
  | endStory => exact Or.inr (Or.inr ⟨rfl, rfl⟩)
  | unrecognized => exact Or.inr (Or.inl ⟨_, rfl⟩)

/-- The name of the first of the default choices. -/
def firstDefaultId : Text := "approach_lumine"

/-- Whatever the threads and the choice, a route shows a plain script that offers something,
unless it is the last one, but nothing under the name of the first of the default choices. -/
theorem exists_script_without (id : Text) (completed : List Text) (p : Progress) :
  ∃ script : Script, script.IsPlain ∧ (resolve id completed p).fragment = script.print
    ∧ ((resolve id completed p).final = true ∨ script.offers ≠ [])
    ∧ ∀ o ∈ script.offers, o.id ≠ firstDefaultId
  := by
  have hgap : '<' ∉ ("\n\n" : Text) := by decide
  rw [resolve]
  obtain ⟨c, s, hfragment⟩ | ⟨names, hfragment⟩ | ⟨hfragment, hfinal⟩ :=
    fragment_cases (distinct completed) p.stages (ChoiceKind.ofId id)
  · obtain ⟨script, hplain, hprint, -, hoffers⟩ :=
      Script.exists_print_eq hgap (Fragment.isPlain_passages c s)
    refine ⟨script, hplain, hfragment.trans hprint, Or.inr ?_, ?_⟩
    · obtain ⟨o, ho, -⟩ := Fragment.exists_wayBack c s
      rw [hoffers]
      apply List.ne_nil_of_mem ho
    · have hids : ∀ o ∈ Fragment.offers c s, o.id ≠ firstDefaultId := by
        cases c <;> cases s <;> decide
      rw [hoffers]
      exact hids
  · obtain ⟨script, hplain, hprint, -, hoffers⟩ :=
      Script.exists_print_eq hgap (Hub.isPlain_passages names)
    rw [Hub.offers_passages] at hoffers
    refine ⟨script, hplain, hfragment.trans hprint, Or.inr ?_, ?_⟩
    · simp [hoffers]
    · intro o ho
      rw [hoffers] at ho
      obtain ⟨c, rfl⟩ | rfl := Hub.mem_options ho
      · obtain ⟨-, he⟩ | ⟨-, he⟩ := Hub.entry_cases names c
        · rw [he]
          cases c <;> decide
        · rw [he]
          cases c <;> decide
      · decide
  · have hline : '<' ∉ ("\n" : Text) := by decide
    obtain ⟨script, hplain, hprint, -, hoffers⟩ :=
      Script.exists_print_eq hline Fragment.isPlain_epilogue
    have hnone : Fragment.epiloguePassages.flatMap (·.offers) = [] := rfl
    refine ⟨script, hplain, hfragment.trans hprint, Or.inl hfinal, ?_⟩
    rw [hoffers, hnone]
    simp

/-- Whether a parser that is fed the fragment of a route in pieces falls back on default
choices; the epilogue is parsed without a tail limit. -/
def fallsBack (limit : Option Int) (defaults : List Choice) (chunkSize : Option Int)
    (r : Route) : Bool :=
  Parser.fallsBack (.upTo (if r.final then none else limit)) (.new .off defaults)
    (Session.cut chunkSize r.fragment)

end Route

/-- A turn that shows default choices in front of its own, if a parser fell back on them. -/
def Turn.offering (defaults : List Choice) (fell : Bool) (t : Turn) : Turn :=
  if fell then
    { t with choices := Choice.offerAll (Choice.firsts defaults) t.choices, complete := true }
  else t

/-- Offering default choices leaves the segments. -/
theorem Turn.segments_offering (defaults : List Choice) (fell : Bool) (t : Turn) :
  (t.offering defaults fell).segments = t.segments
  := by
  cases fell <;> rfl

/-- A turn offers what its parser offers. -/
theorem Parser.turn_offering (limit : TailLimit) (fell : Bool) (q : Parser)
    (segments : List Segment) :
  (⟨segments, (offering limit fell q).choices, (offering limit fell q).complete⟩ : Turn)
    = Turn.offering q.defaults fell ⟨segments, q.choices, q.complete⟩
  := by
  cases fell <;> rfl

/-- Offering default choices leaves the defaults. -/
theorem Parser.defaults_offering (limit : TailLimit) (fell : Bool) (q : Parser) :
  (offering limit fell q).defaults = q.defaults
  := by
  cases fell <;> rfl

/-- Without the first of the default choices among its own, a turn shows whether a parser fell
back on them. -/
theorem Turn.offering_eq_iff {script : Script}
    (h : ∀ o ∈ script.offers, o.id ≠ Route.firstDefaultId) (fell : Bool) :
  script.turn.offering Parser.defaultChoices fell = script.turn ↔ fell = false
  := by
  cases fell with
  | false => exact ⟨fun _ => rfl, fun _ => rfl⟩
  | true =>
      refine ⟨fun heq => ?_, nofun⟩
      have hchoices : Choice.offerAll (Choice.firsts Parser.defaultChoices)
          (Choice.firsts script.offers) = Choice.firsts script.offers :=
        congrArg Turn.choices heq
      have hfirst : (⟨Route.firstDefaultId,
          "Approach Lumine and ask about her travels between worlds", false⟩ : Choice)
          ∈ Choice.firsts script.offers := by
        rw [← hchoices, Choice.offerAll_eq]
        exact List.mem_append_left _ List.mem_cons_self
      exact absurd rfl (h _ (Choice.mem_firsts hfirst))

/-! ### Taking choices -/

/-- The routes of choices that are taken one after another. -/
def Snapshot.routes : Snapshot → List Text → List Route
  | _, [] => []
  | k, id :: ids => Route.resolve id k.completed k.progress :: routes (k.after id) ids

namespace Session

variable {s : Session} {limit : Option Int}

/-- A fragment is fed whole, in pieces or not. -/
theorem flatten_cut (chunkSize : Option Int) (t : Text) :
  (cut chunkSize t).flatten = t
  := by
  cases chunkSize with
  | none => simp [cut]
  | some size => apply Text.flatten_cut

/-- A step that begins with a plain script shows it, with the default choices in front when its
pieces make the parser fall back on them. -/
theorem begin_offering (hlimit : s.limit = .upTo limit) {script : Script} (hp : script.IsPlain)
    (final : Bool) :
  ∃ q : Parser, q.defaults = s.parser.defaults
    ∧ s.begin script.print final
      = (.ok (script.turn.offering s.parser.defaults
          (Parser.fallsBack (.upTo (if final then none else limit)) (.new .off s.parser.defaults)
            (cut s.chunkSize script.print))),
        { s with parser := q, finished := final })
  := by
  obtain ⟨fed, hfeed, hoff, hdefaults, -, hchoices, hcomplete, -⟩ :=
    Parser.feed_script .off s.parser.defaults hp
  have hfall : fed.fallBack = .ok fed := by
    rw [Parser.fallBack, hoff]
    rfl
  rw [hfall, ← flatten_cut s.chunkSize script.print] at hfeed
  have hall := Parser.feedAll_offering hfeed (if final then none else limit)
  have hnew : (if final then TailLimit.off else s.limit)
      = .upTo (if final then none else limit) := by
    cases final with
    | false => exact hlimit
    | true => rfl
  generalize Parser.fallsBack _ _ (cut s.chunkSize script.print) = fell at hall ⊢
  refine ⟨Parser.offering (.upTo (if final then none else limit)) fell fed,
    (Parser.defaults_offering _ fell fed).trans hdefaults, ?_⟩
  simp only [begin, feed, hnew, hall]
  rw [Parser.turn_offering, hchoices, hcomplete, hdefaults]
  rfl

/-- A choice leads to the script of its route, with the default choices in front when its pieces
make the parser fall back on them. -/
theorem choose_offering (hlimit : s.limit = .upTo limit) {id : Text} {script : Script}
    (hp : script.IsPlain)
    (hfragment : (Route.resolve id s.completed s.progress).fragment = script.print) :
  ∃ s', s.choose id
      = (.ok (script.turn.offering s.parser.defaults
          ((Route.resolve id s.completed s.progress).fallsBack limit s.parser.defaults
            s.chunkSize)), s')
    ∧ s'.Like (s.adopt (Route.resolve id s.completed s.progress))
    ∧ s'.finished = (Route.resolve id s.completed s.progress).final
  := by
  obtain ⟨q, hdefaults, hbegin⟩ := begin_offering
    (s := s.adopt (Route.resolve id s.completed s.progress)) hlimit hp
    (Route.resolve id s.completed s.progress).final
  refine ⟨_, ?_, like_withParser _ hdefaults _, rfl⟩
  rw [choose, hfragment, hbegin, Route.fallsBack, hfragment]
  rfl

/-- A route whose fragment is parsed whole does not make a parser fall back. -/
theorem fallsBack_whole {id : Text} {completed : List Text} {p : Progress} {script : Script}
    (hp : script.IsPlain) (hfragment : (Route.resolve id completed p).fragment = script.print)
    (hany : (Route.resolve id completed p).final = true ∨ script.offers ≠ [])
    (limit : Option Int) (defaults : List Choice) :
  (Route.resolve id completed p).fallsBack limit defaults none = false
  := by
  rw [Route.fallsBack]
  obtain hfinal | hoffers := hany
  · rw [hfinal]
    apply Parser.fallsBack_off
  · obtain ⟨fed, hfeed, -, hchoices, -⟩ := Parser.feed_print defaults hp
    have hsome : fed.choices.isEmpty = false := by
      rw [hchoices]
      simpa using Choice.firsts_ne_nil hoffers
    rw [cut, Parser.fallsBack, Parser.fallsBack, Parser.fallsBackAt, hfragment, hfeed,
      Parser.isDue, hsome]
    rfl

/-- The session that parses fragments in pieces of a size. -/
def inPieces (size : Int) (s : Session) : Session :=
  { s with chunkSize := some size }

/-- Sessions that are alike take all choices alike. -/
theorem Like.chooseEach_eq {s' : Session} (h : s.Like s') (ids : List Text) :
  s.chooseEach ids = s'.chooseEach ids
  := by
  cases ids with
  | nil => rfl
  | cons id ids => rw [chooseEach, chooseEach, h.choose_eq]

/-- Behind a choice a session stands at the state that the route of the choice leaves. -/
theorem snapshot_of_like {s' : Session} {id : Text}
    (h : s'.Like (s.adopt (Route.resolve id s.completed s.progress))) :
  s'.snapshot = s.snapshot.after id
  := by
  rw [snapshot, h.completed, h.progress]
  rfl

/-- Beside a session that parses fragments whole, the same one that parses them in pieces goes
through the same states of the threads and shows the same segments.  It shows the same turns
exactly when no route makes it fall back. -/
theorem chooseEach_inPieces_iff (hwhole : s.chunkSize = none) (hlimit : s.limit = .upTo limit)
    (hdefaults : s.parser.defaults = Parser.defaultChoices) (size : Int) (ids : List Text) :
  ((s.inPieces size).chooseEach ids).map (fun step => (step.2.snapshot, step.2.finished))
      = (s.chooseEach ids).map (fun step => (step.2.snapshot, step.2.finished))
    ∧ ((s.inPieces size).chooseEach ids).map (fun step => step.1.map Turn.segments)
      = (s.chooseEach ids).map (fun step => step.1.map Turn.segments)
    ∧ (((s.inPieces size).chooseEach ids).map (·.1) = (s.chooseEach ids).map (·.1)
      ↔ ∀ r ∈ s.snapshot.routes ids, r.fallsBack limit Parser.defaultChoices (some size) = false)
  := by
  induction ids generalizing s with
  | nil => simp [chooseEach, Snapshot.routes]
  | cons id ids ih =>
      obtain ⟨script, hp, hfragment, hany, hids⟩ :=
        Route.exists_script_without id s.completed s.progress
      obtain ⟨s₁, hchoose₁, hlike₁, hfinished₁⟩ := choose_offering hlimit hp hfragment
      obtain ⟨s₂, hchoose₂, hlike₂, hfinished₂⟩ :=
        choose_offering (s := s.inPieces size) hlimit hp hfragment
      rw [hwhole, fallsBack_whole hp hfragment hany] at hchoose₁
      -- Behind the choice the two differ only in their parsers and the size of the pieces.
      have hlike : s₂.Like (s₁.inPieces size) :=
        ⟨hlike₂.completed.trans hlike₁.completed.symm,
          hlike₂.progress.trans hlike₁.progress.symm, hlike₂.limit.trans hlike₁.limit.symm,
          hlike₂.chunkSize, hlike₂.defaults.trans hlike₁.defaults.symm⟩
      have hrun₁ : s.chooseEach (id :: ids) = (.ok script.turn, s₁) :: s₁.chooseEach ids := by
        rw [chooseEach, hchoose₁]
        rfl
      have hrun₂ : (s.inPieces size).chooseEach (id :: ids)
          = (.ok (script.turn.offering Parser.defaultChoices
              ((Route.resolve id s.completed s.progress).fallsBack limit Parser.defaultChoices
                (some size))), s₂) :: (s₁.inPieces size).chooseEach ids := by
        rw [chooseEach, hchoose₂, hlike.chooseEach_eq, ← hdefaults]
        rfl
      have hroutes : s.snapshot.routes (id :: ids)
          = Route.resolve id s.completed s.progress :: s₁.snapshot.routes ids := by
        rw [Snapshot.routes, snapshot_of_like hlike₁]
        rfl
      have hsnapshot : s₂.snapshot = s₁.snapshot :=
        (snapshot_of_like hlike₂).trans (snapshot_of_like hlike₁).symm
      obtain ⟨hstates, hsegments, hturns⟩ := ih (s := s₁) (hlike₁.chunkSize.trans hwhole)
        (hlike₁.limit.trans hlimit) (hlike₁.defaults.trans hdefaults)
      rw [hrun₁, hrun₂, hroutes]
      simp only [List.map_cons]
      refine ⟨?_, ?_, ?_⟩
      · rw [hstates, hsnapshot, hfinished₁, hfinished₂]
        rfl
      · rw [hsegments]
        simp only [Except.map, Turn.segments_offering]
      · rw [List.cons.injEq, Except.ok.injEq, Turn.offering_eq_iff hids, hturns,
          List.forall_mem_cons]

/-- Whatever the threads, the limit of so many characters, or none, and the size of the pieces:
a session that parses fragments in pieces goes through the same states of the threads as one
that parses them whole, and shows the same segments.  All its turns are the same exactly when
none of the routes that the choices take makes it fall back on the default choices. -/
theorem chooseEach_inPieces (completed : List Text) (progress : Progress) (limit : Option Int)
    (size : Int) (ids : List Text) :
  let whole := (Session.new completed progress (.upTo limit) none).chooseEach ids
  let pieces := (Session.new completed progress (.upTo limit) (some size)).chooseEach ids
  pieces.map (fun step => (step.2.snapshot, step.2.finished))
      = whole.map (fun step => (step.2.snapshot, step.2.finished))
    ∧ pieces.map (fun step => step.1.map Turn.segments)
      = whole.map (fun step => step.1.map Turn.segments)
    ∧ (pieces.map (·.1) = whole.map (·.1)
      ↔ ∀ r ∈ Snapshot.routes ⟨completed, progress⟩ ids,
        r.fallsBack limit Parser.defaultChoices (some size) = false)
  := by
  apply chooseEach_inPieces_iff (s := Session.new completed progress (.upTo limit) none) rfl rfl
    rfl

/-- In pieces of twenty-five characters, one of which ends between the question of the hub and
its choices, a new session offers default choices in front of those of the hub. -/
theorem choose_hub_in_pieces :
  ((new [] [] Parser.defaultLimit (some 25)).choose "hub_choose_other").1.map
      (fun t => t.choices.map (·.id))
    = .ok ["approach_lumine", "talk_zhongli", "challenge_tartaglia", "listen_venti",
        "talk_lumine", "talk_tartaglia", "talk_venti", "end_story"]
    ∧ ((new [] [] Parser.defaultLimit none).choose "hub_choose_other").1.map
      (fun t => t.choices.map (·.id))
    = .ok ["talk_lumine", "talk_zhongli", "talk_tartaglia", "talk_venti", "end_story"]
  := by
  decide +kernel

end Session

end BranchingStory
