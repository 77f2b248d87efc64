import BranchingStory.Proofs.Http.Playthrough
import BranchingStory.Proofs.Record.Revision

/-!
# A conversation mirrors one session

The service makes a new session for every request on a conversation, from what is stored of it.
What it shows, and what it stores, are nevertheless those of one session that makes the moves
that the served requests ask for, one after another.
-/

namespace BranchingStory

open Operation

/-! ### Moves -/

/-- What a session is asked to do: to begin the story or to take a choice. -/
inductive Move where
  | begin
  | choose (id : Text)
  deriving Repr, DecidableEq

/-- The choice that is taken with a move, if one is. -/
def Move.choice? : Move → Option Text
  | begin => none
  | choose id => some id

namespace Session

/-- Makes a move, where the story begins with an opening. -/
def move (opening : Text) (s : Session) : Move → Except Parser.Fault Turn × Session
  | .begin => s.begin opening false
  | .choose id => s.choose id

/-- Makes moves one after another and goes on behind a fault: what each of them gives, and the
session afterwards. -/
def moveEach (opening : Text) : Session → List Move → List (Except Parser.Fault Turn) × Session
  | s, [] => ([], s)
  | s, m :: ms =>
    let (outcome, s) := s.move opening m
    let (outcomes, s) := moveEach opening s ms
    (outcome :: outcomes, s)

end Session

namespace Http

/-- The move that a request on a conversation asks for, if its body can be read. -/
def Request.move? (r : Request) : Option Move :=
  match Endpoint.lookup r.method (Address.ofText r.address).path with
  | .found (.start _) => some .begin
  | .found (.choose _) =>
    (checkedBody r checkChoice).toOption.bind fun choice => choice.text?.map .choose
  | _ => none

/-- The response to a request. -/
def responseTo (s : Store) (r : Request) : Response :=
  ((answer r).run s).1

/-- The moves of the requests that are answered with success, one after another. -/
def servedMoves : Store → List Request → List Move
  | _, [] => []
  | s, r :: rs =>
    (if statusOf s r = 200 then r.move?.toList else []) ++ servedMoves (next s r) rs

/-- The responses to the requests that are answered with success, one after another. -/
def servedResponses : Store → List Request → List Response
  | _, [] => []
  | s, r :: rs =>
    (if statusOf s r = 200 then [responseTo s r] else []) ++ servedResponses (next s r) rs

/-! ### One request -/

/-- A store that provides the story and holds a conversation, from which a session goes on like
another one. -/
structure Mirrors (s : Store) (opening : Text) (v : Settings) (c : Conversation) (q : Session) :
    Prop where
  provides : s.Provides opening v
  holds : s.Holds c
  storable : c.IsStorable
  like : q.Like (.new c.completed c.progress v.limit none)
  finished : c.finished = q.finished

/-- A version of a conversation behind a move that shows a turn. -/
structure Follows (c : Conversation) (m : Move) (turn : Turn) (d : Conversation) : Prop where
  session : d.session = c.session
  id : d.id = c.id
  segments : d.segments = c.segments ++ turn.segments
  choices : d.choices = turn.choices
  selected : d.selected = c.selected ++ m.choice?.toList

variable {s : Store} {opening : Text} {v : Settings} {c : Conversation} {q : Session}
  {r : Request}

/-- A request that is served is answered as the service answers it. -/
theorem responseTo_of_ok {e : Endpoint} {session : Text} (h : r.Asks e session)
    {response : Response} {s' : Store}
    (hr : run (serve r (Address.ofText r.address) e) s = (.ok response, s')) :
  responseTo s r = response
  := by
  rw [responseTo, answer_of_ok h.endpoint hr]

/-- What is served to a request that plays: a move of the session, which shows the turn that is
answered and leads to where the stored conversation is. -/
def Serves (s : Store) (opening : Text) (v : Settings) (c : Conversation) (q : Session)
    (r : Request) : Prop :=
  ∃ m turn q' d, r.move? = some m
    ∧ q.move (Text.unifyNewlines opening) m = (.ok turn, q')
    ∧ statusOf s r = 200
    ∧ responseTo s r = .json 200 (Record.toJson turn)
    ∧ Mirrors (next s r) opening v d q'
    ∧ Follows c m turn d

/-- What is refused leaves the store. -/
def Refuses (s : Store) (r : Request) : Prop :=
  statusOf s r ≠ 200 ∧ next s r = s

namespace Mirrors

/-- A start begins the story, or is refused. -/
theorem start (h : Mirrors s opening v c q)
    (hreads : ((Parser.new v.limit Parser.defaultChoices).feed
      (Text.unifyNewlines opening)).1.isOk = true)
    (hr : r.Asks (.start c.id) c.session) :
  Serves s opening v c q r ∨ Refuses s r
  := by
  by_cases hu : c.IsUnstarted
  · left
    obtain ⟨turn, q', hbegin, hlike, hfinished⟩ := Session.exists_begin
      (s := .new c.completed c.progress v.limit none) rfl false hreads
    obtain ⟨now, s', hrun, hprovides, hheld⟩ :=
      run_serveStart h.provides h.holds h.storable hr.session hu hbegin
    obtain ⟨hnext, hstatus⟩ := next_of_ok hr hrun
    have hmove : r.move? = some .begin := by
      rw [Request.move?, hr.endpoint]
    have hselected : (c.revise (startRevision turn) now).selected = c.selected := by
      simp [Conversation.revise, startRevision]
    refine ⟨.begin, turn, q', c.revise (startRevision turn) now, hmove,
      (h.like.begin_eq _ _).trans hbegin, hstatus.trans (status_turn _),
      responseTo_of_ok hr hrun, ?_, ?_⟩
    · rw [hnext]
      exact ⟨hprovides, hheld, h.storable, hlike, hu.finished.trans hfinished.symm⟩
    · exact ⟨rfl, rfl, rfl, rfl, hselected.trans (List.append_nil _).symm⟩
  · right
    obtain ⟨p, hrun, hp⟩ := run_serveStart_refused h.holds h.storable hr.session hu
    obtain ⟨hnext, hstatus⟩ := next_of_error hr hrun hp
    exact ⟨hstatus, hnext⟩

/-- A choice is taken, or refused. -/
theorem choose (h : Mirrors s opening v c q) (hr : r.Asks (.choose c.id) c.session) :
  Serves s opening v c q r ∨ Refuses s r
  := by
  by_cases hacc : ∃ choice : Text, checkedBody r checkChoice = .ok ↑choice ∧ c.Accepts choice
  · left
    obtain ⟨choice, hbody, hacc⟩ := hacc
    obtain ⟨script, q', -, -, hchoose, hlike, hfinished⟩ := Session.choose_turn
      (s := .new c.completed c.progress v.limit none) rfl choice
    obtain ⟨now, s', hrun, hprovides, hheld⟩ :=
      run_serveChoose h.provides h.holds h.storable hr.session hbody hacc hchoose
    obtain ⟨hnext, hstatus⟩ := next_of_ok hr hrun
    have hmove : r.move? = some (.choose choice) := by
      rw [Request.move?, hr.endpoint]
      dsimp only
      rw [hbody]
      rfl
    refine ⟨.choose choice, script.turn, q', c.revise (choiceRevision choice script.turn q') now,
      hmove, (h.like.choose_eq _).trans hchoose, hstatus.trans (status_turn _),
      responseTo_of_ok hr hrun, ?_, ?_⟩
    · rw [hnext]
      exact ⟨hprovides, hheld, h.storable.resolve choice hlike.progress,
        ⟨rfl, rfl, hlike.limit, hlike.chunkSize, hlike.defaults⟩, rfl⟩
    · exact ⟨rfl, rfl, rfl, rfl, hacc.selected_revise rfl now⟩
  · right
    obtain ⟨p, hrun, hp⟩ := run_serveChoose_refused h.holds h.storable hr.session
      fun choice hbody ha => hacc ⟨choice, hbody, ha⟩
    obtain ⟨hnext, hstatus⟩ := next_of_error hr hrun hp
    exact ⟨hstatus, hnext⟩

/-- A request on the conversation is served as the session moves, or refused. -/
theorem step (h : Mirrors s opening v c q)
    (hreads : ((Parser.new v.limit Parser.defaultChoices).feed
      (Text.unifyNewlines opening)).1.isOk = true)
    (hr : r.Plays c.session c.id) :
  Serves s opening v c q r ∨ Refuses s r
  := by
  obtain hr | hr := hr
  · apply h.start hreads hr
  · apply h.choose hr

/-- Requests on the conversation are served as the session moves with those that are served. -/
theorem run (h : Mirrors s opening v c q)
    (hreads : ((Parser.new v.limit Parser.defaultChoices).feed
      (Text.unifyNewlines opening)).1.isOk = true)
    {rs : List Request} (hrs : ∀ r ∈ rs, r.Plays c.session c.id) :
  ∃ (turns : List Turn) (q' : Session) (d : Conversation),
    q.moveEach (Text.unifyNewlines opening) (servedMoves s rs) = (turns.map .ok, q')
    ∧ servedResponses s rs = turns.map (fun turn => .json 200 (Record.toJson turn))
    ∧ Mirrors (after s rs) opening v d q'
    ∧ d.session = c.session ∧ d.id = c.id
    ∧ d.segments = c.segments ++ turns.flatMap (·.segments)
    ∧ d.choices = (turns.getLast?.map (·.choices)).getD c.choices
    ∧ d.selected = c.selected ++ (servedMoves s rs).filterMap Move.choice?
  := by
  induction rs generalizing s c q with
  | nil => exact ⟨[], q, c, rfl, rfl, h, rfl, rfl, by simp, rfl, by simp [servedMoves]⟩
  | cons r rs ih =>
      obtain ⟨m, turn, q₁, c₁, hmove, hturn, hstatus, hresponse, h₁, hfollows⟩ | ⟨hstatus, hnext⟩ :=
        h.step hreads (hrs r List.mem_cons_self)
      · have hrs₁ : ∀ r ∈ rs, r.Plays c₁.session c₁.id := by
          rw [hfollows.session, hfollows.id]
          exact fun r hr => hrs r (List.mem_cons_of_mem _ hr)
        obtain ⟨turns, q', d, hmoves, hresponses, hd, hs, hi, hsegments, hchoices, hselected⟩ :=
          ih h₁ hrs₁
        have hmoved : servedMoves s (r :: rs) = m :: servedMoves (next s r) rs := by
          rw [servedMoves, if_pos hstatus, hmove]
          rfl
        have hresponded : servedResponses s (r :: rs)
            = responseTo s r :: servedResponses (next s r) rs := by
          rw [servedResponses, if_pos hstatus]
          rfl
        rw [hmoved, hresponded]
        refine ⟨turn :: turns, q', d, ?_, ?_, hd, hs.trans hfollows.session,
          hi.trans hfollows.id, ?_, ?_, ?_⟩
        · simp only [Session.moveEach, hturn, hmoves, List.map_cons]
        · rw [hresponse, hresponses, List.map_cons]
        · rw [hsegments, hfollows.segments, List.flatMap_cons, List.append_assoc]
        · rw [hchoices, hfollows.choices, List.getLast?_cons]
          cases turns.getLast? <;> rfl
        · rw [hselected, hfollows.selected, List.append_assoc]
          cases m <;> rfl
      · have hmoved : servedMoves s (r :: rs) = servedMoves s rs := by
          rw [servedMoves, if_neg hstatus, hnext, List.nil_append]
        have hresponded : servedResponses s (r :: rs) = servedResponses s rs := by
          rw [servedResponses, if_neg hstatus, hnext, List.nil_append]
        have hafter : after s (r :: rs) = after s rs := by
          rw [after, List.foldl_cons, hnext, ← after]
        rw [hmoved, hresponded, hafter]
        apply ih h fun r hr => hrs r (List.mem_cons_of_mem _ hr)

end Mirrors

/-! ### Whole runs -/

/-- Whatever the opening and the tail limit, if a new parser takes the opening in without a fault:
the requests to start a new conversation and to take choices in it that are served are
answered with what one session shows that makes their moves one after another.  The conversation
is stored with all segments of these turns, the choices of the last of them, the choices that were
taken, and the state of the threads of the session; and what is refused leaves the store. -/
theorem conversation_mirrors_session {s s₁ : Store} {opening : Text} {v : Settings}
    (hopens : s.Opens opening) (hsettings : (Operation.run Store.settings s).1 = .ok v)
    (hreads : ((Parser.new v.limit Parser.defaultChoices).feed
      (Text.unifyNewlines opening)).1.isOk = true)
    {session prompt : Text} {title : Option Text} {c₀ : Conversation}
    (hcreate : Operation.run (Store.create session prompt title) s = (.ok c₀, s₁))
    {rs : List Request} (hrs : ∀ r ∈ rs, r.Plays c₀.session c₀.id) :
  ∃ (turns : List Turn) (q : Session) (c : Conversation),
    (Session.new [] [] v.limit none).moveEach (Text.unifyNewlines opening) (servedMoves s₁ rs)
      = (turns.map .ok, q)
    ∧ servedResponses s₁ rs = turns.map (fun turn => .json 200 (Record.toJson turn))
    ∧ Archive.find? (after s₁ rs).disk c₀.session c₀.id = .ok (some c)
    ∧ c.segments = turns.flatMap (·.segments)
    ∧ c.choices = (turns.getLast?.map (·.choices)).getD []
    ∧ c.selected = (servedMoves s₁ rs).filterMap Move.choice?
    ∧ c.completed = q.completed ∧ c.progress = q.progress ∧ c.finished = q.finished
    ∧ ∀ r, r.Plays c₀.session c₀.id → statusOf (after s₁ rs) r ≠ 200 →
      next (after s₁ rs) r = after s₁ rs
  := by
  obtain ⟨hheld, hkeeps, id, title, now, rfl⟩ := Store.holds_of_create hcreate
  have hprovides : s.Provides opening v := ⟨hopens, hsettings⟩
  have hmirrors : Mirrors s₁ opening v (.new id title prompt session now)
      (.new [] [] v.limit none) :=
    ⟨hprovides.keeps hkeeps, hheld, ⟨[], rfl, List.nodup_nil⟩, ⟨rfl, rfl, rfl, rfl, rfl⟩, rfl⟩
  obtain ⟨turns, q, c, hmoves, hresponses, hc, hs, hi, hsegments, hchoices, hselected⟩ :=
    hmirrors.run hreads hrs
  have hfind : Archive.find? (after s₁ rs).disk c.session c.id = .ok (some c) := by
    obtain ⟨p, hp⟩ := hc.holds
    apply hp.find? hc.storable
  rw [hs, hi] at hfind
  refine ⟨turns, q, c, hmoves, hresponses, hfind, hsegments, hchoices, hselected,
    hc.like.completed.symm, hc.like.progress.symm, hc.finished, ?_⟩
  intro r hr hstatus
  rw [← hs, ← hi] at hr
  obtain ⟨_, _, _, _, -, -, hserved, -⟩ | ⟨-, hnext⟩ := hc.step hreads hr
  · contradiction
  · exact hnext

/-- An opening that brings its own choices. -/
def briefOpening : Text :=
  "<Narrator>Hi</Narrator>\r\n<Choices><Choice id=\"venti_l1_x\">Go</Choice></Choices>"

/-- A new conversation that is started, in which a choice is taken and which is not started
again. -/
theorem conversation_mirrors_session_started_twice :
  ∃ c₀ s₁ rs,
    (Store.new (.text briefOpening) .counting).Opens briefOpening
    ∧ (Operation.run Store.settings (Store.new (.text briefOpening) .counting)).1
      = .ok Settings.defaults
    ∧ ((Parser.new Settings.defaults.limit Parser.defaultChoices).feed
      (Text.unifyNewlines briefOpening)).1.isOk = true
    ∧ Operation.run (Store.create "player" "Hello" none)
      (Store.new (.text briefOpening) .counting) = (.ok c₀, s₁)
    ∧ rs.length = 3 ∧ (∀ r ∈ rs, r.Plays c₀.session c₀.id)
    ∧ servedMoves s₁ rs = [.begin, .choose "venti_l1_x"]
    ∧ ∃ (turns : List Turn) (q : Session) (c : Conversation),
      (Session.new [] [] Settings.defaults.limit none).moveEach (Text.unifyNewlines briefOpening)
        [.begin, .choose "venti_l1_x"] = (turns.map .ok, q)
      ∧ Archive.find? (after s₁ rs).disk c₀.session c₀.id = .ok (some c)
      ∧ c.segments = turns.flatMap (·.segments) ∧ c.progress = q.progress
  := by
  have hopens : (Store.new (.text briefOpening) .counting).Opens briefOpening := ⟨rfl, Or.inl rfl⟩
  have hsettings : (Operation.run Store.settings (Store.new (.text briefOpening) .counting)).1
      = .ok Settings.defaults := rfl
  have hreads : ((Parser.new Settings.defaults.limit Parser.defaultChoices).feed
      (Text.unifyNewlines briefOpening)).1.isOk = true := by decide +kernel
  have hdone : (Operation.run (Store.create "player" "Hello" none)
      (Store.new (.text briefOpening) .counting)).1.isOk = true := by decide
  obtain ⟨c₀, s₁, hcreate⟩ := exists_of_isOk hdone
  have hkeys : (Operation.run (Store.create "player" "Hello" none)
      (Store.new (.text briefOpening) .counting)).1.toOption.map (fun c => (c.session, c.id))
      = some (("player" : Text), ("00000000-0000-0000-0000-000000000001" : Text)) := by
    decide
  have hserved : servedMoves (Operation.run (Store.create "player" "Hello" none)
      (Store.new (.text briefOpening) .counting)).2
      [startRequest "player" "00000000-0000-0000-0000-000000000001",
        chooseRequest "player" "00000000-0000-0000-0000-000000000001" "venti_l1_x",
        startRequest "player" "00000000-0000-0000-0000-000000000001"]
      = [.begin, .choose "venti_l1_x"] := by
    decide +kernel
  rw [hcreate] at hkeys hserved
  obtain ⟨hs, hi⟩ := Prod.mk.inj (Option.some.inj hkeys)
  rw [← hs, ← hi] at hserved
  have hkey : Key.isKey c₀.session = true ∧ Key.isKey c₀.id = true := by
    rw [hs, hi]
    decide
  have hplays : ∀ r ∈ [startRequest c₀.session c₀.id,
      chooseRequest c₀.session c₀.id "venti_l1_x", startRequest c₀.session c₀.id],
      r.Plays c₀.session c₀.id := by
    have hstart := startRequest_asks hkey.1 hkey.2
    exact List.forall_mem_cons.mpr ⟨Or.inl hstart, List.forall_mem_cons.mpr
      ⟨Or.inr (chooseRequest_asks hkey.1 hkey.2 _),
        List.forall_mem_singleton.mpr (Or.inl hstart)⟩⟩
  obtain ⟨turns, q, c, hmoves, -, hfind, hsegments, -, -, -, hprogress, -⟩ :=
    conversation_mirrors_session hopens hsettings hreads hcreate hplays
  rw [hserved] at hmoves
  exact ⟨c₀, s₁, _, hopens, hsettings, hreads, hcreate, rfl, hplays, hserved, turns, q, c, hmoves,
    hfind, hsegments, hprogress⟩

end Http

end BranchingStory
