import BranchingStory.Proofs.Http.Request
import BranchingStory.Proofs.Http.Service

/-!
# Playthroughs

A conversation that is created in a store with the opening and the settings of the story is
played by requests that start it and take choices in it, whatever choices these are and in
whatever order they come.  What the store then holds of it is sound, and can be brought to its
end until it has ended.
-/

namespace BranchingStory

namespace Http

open Operation

/-! ### Answers -/

/-- The store behind the answer to a request. -/
def next (s : Store) (r : Request) : Store :=
  ((answer r).run s).2

/-- The store behind the answers to requests, one after another. -/
def after (s : Store) (rs : List Request) : Store :=
  rs.foldl next s

/-- What the answer to a request says about its success. -/
def statusOf (s : Store) (r : Request) : Nat :=
  ((answer r).run s).1.status

variable {r : Request} {e : Endpoint} {session : Text} {s s' : Store}

/-- A problem is answered with its response. -/
theorem answer_run (r : Request) (s : Store) :
  (answer r).run s = (match run (handle r (Address.ofText r.address)) s with
    | (.ok response, s') => (response, s')
    | (.error p, s') => (p.response, s'))
  := by
  cases hr : run (handle r (Address.ofText r.address)) s with
  | mk outcome s' =>
      have hrun : (ExceptT.run (handle r (Address.ofText r.address))).run s = (outcome, s') := hr
      rw [answer, StateT.run_bind, hrun]
      cases outcome <;> rfl

/-- What a request asks for is served. -/
theorem run_handle (h : Endpoint.lookup r.method (Address.ofText r.address).path = .found e)
    (s : Store) :
  run (handle r (Address.ofText r.address)) s = run (serve r (Address.ofText r.address) e) s
  := by
  rw [handle, h]

/-- A request that is served is answered as the service answers it. -/
theorem answer_of_ok (h : Endpoint.lookup r.method (Address.ofText r.address).path = .found e)
    {response : Response} (hr : run (serve r (Address.ofText r.address) e) s = (.ok response, s')) :
  (answer r).run s = (response, s')
  := by
  rw [← run_handle h] at hr
  rw [answer_run, hr]

/-- A request that is served leaves the store as the service leaves it. -/
theorem next_of_ok (h : r.Asks e session) {response : Response}
    (hr : run (serve r (Address.ofText r.address) e) s = (.ok response, s')) :
  next s r = s' ∧ statusOf s r = response.status
  := by
  rw [next, statusOf, answer_of_ok h.endpoint hr]
  exact ⟨rfl, rfl⟩

/-- A request with a problem that is a failure fails, and leaves the store as the service
leaves it. -/
theorem next_of_error (h : r.Asks e session) {p : Problem}
    (hr : run (serve r (Address.ofText r.address) e) s = (.error p, s')) (hp : p.IsFailure) :
  next s r = s' ∧ statusOf s r ≠ 200
  := by
  have ha : (answer r).run s = (p.response, s') := by
    rw [← run_handle h.endpoint] at hr
    rw [answer_run, hr]
  rw [next, statusOf, ha]
  exact ⟨rfl, hp⟩

/-! ### Conversations that are played -/

/-- A store of the story that holds a conversation that is played. -/
structure Playing (s : Store) (c : Conversation) (es : Entries Stage) (chosen : Bool) : Prop where
  stock : s.IsStock
  holds : s.Holds c
  progress : c.progress = .ofStages es
  threads : Threads c.completed es
  stands : c.Stands es chosen

namespace Playing

variable {c : Conversation} {es : Entries Stage} {chosen : Bool}

/-- A conversation that is played can be read back. -/
theorem storable (h : Playing s c es chosen) :
  c.IsStorable
  := ⟨es, h.progress, h.threads.nodup⟩

/-- The conversation is found under its session and its id. -/
theorem find? (h : Playing s c es chosen) :
  Archive.find? s.disk c.session c.id = .ok (some c)
  := by
  obtain ⟨p, hp⟩ := h.holds
  apply hp.find? h.storable

/-- The session and the id of a conversation that is played are keys. -/
theorem isKey (h : Playing s c es chosen) :
  Key.isKey c.session = true ∧ Key.isKey c.id = true
  := by
  obtain ⟨p, hp⟩ := h.holds
  obtain ⟨hs, hi, -⟩ := Archive.path_eq_ok_iff.mp hp.path
  exact ⟨hs, hi⟩

/-- A conversation that was created is played from its beginning. -/
theorem of_create (hs : s.IsStock) {prompt : Text} {title : Option Text}
    (h : run (Store.create session prompt title) s = (.ok c, s')) :
  Playing s' c [] false
  := by
  obtain ⟨hheld, hkeeps, id, title, now, rfl⟩ := Store.holds_of_create h
  exact ⟨hs.keeps hkeeps, hheld, rfl, Threads.nil, .unstarted ⟨rfl, rfl, rfl⟩ rfl⟩

/-- A start puts an unstarted conversation behind the opening, and is refused otherwise. -/
theorem start (h : Playing s c es chosen) (hr : r.Asks (.start c.id) c.session) :
  ∃ d, Playing (next s r) d es chosen ∧ d.session = c.session ∧ d.id = c.id
    ∧ (c.IsUnstarted → d.choices = Parser.defaultChoices)
  := by
  by_cases hu : c.IsUnstarted
  · obtain ⟨turn, q, hbegin, hchoices⟩ := Session.begin_prologue
      (s := .new c.completed c.progress Parser.defaultLimit none) rfl rfl
    have hprologue : Text.unifyNewlines Fragment.prologue = Fragment.prologue := by decide +kernel
    rw [← hprologue] at hbegin
    obtain ⟨now, s', hrun, hstock, hheld⟩ :=
      run_serveStart h.stock h.holds h.storable hr.session hu hbegin
    rw [(next_of_ok hr hrun).1]
    refine ⟨_, ⟨hstock, hheld, h.progress, h.threads, ?_⟩, rfl, rfl,
      fun _ => hchoices⟩
    have hstands := h.stands
    cases hstands with
    | unstarted _ hc => exact .opened hchoices hu.finished hc
    | opened hc _ _ =>
        rw [hu.choices] at hc
        cases hc
    | inScene scene hc _ =>
        rw [hu.choices] at hc
        apply absurd hc.symm (Scene.offers_ne_nil _ _ scene)
    | ended _ hf =>
        rw [hu.finished] at hf
        cases hf
  · obtain ⟨p, hrun, hp⟩ := run_serveStart_refused h.holds h.storable hr.session hu
    rw [(next_of_error hr hrun hp).1]
    exact ⟨c, h, rfl, rfl, fun hu' => absurd hu' hu⟩

/-- What is accepted fits how the threads stand. -/
theorem fits (h : Playing s c es chosen) {choice : Text} (hacc : c.Accepts choice) :
  (ChoiceKind.ofId choice).Fits c.completed es
  := by
  obtain ⟨o, hfind, -⟩ := hacc.enabled
  have ho := List.mem_reverse.mp (List.mem_of_find?_eq_some hfind)
  have hid : o.id = choice := by simpa using List.find?_some hfind
  rw [← hid]
  apply h.stands.fits h.threads ho

/-- A choice that is accepted and does not end the story leads to a scene. -/
theorem choose_scene (h : Playing s c es chosen) (hr : r.Asks (.choose c.id) c.session)
    {choice : Text} (hbody : checkedBody r checkChoice = .ok choice) (hacc : c.Accepts choice)
    (hne : ChoiceKind.ofId choice ≠ .endStory) :
  ∃ d fs scene, Playing (next s r) d fs true ∧ d.session = c.session ∧ d.id = c.id
    ∧ d.choices = Scene.offers d.completed fs scene
    ∧ (Route.showsHub (ChoiceKind.ofId choice) = true → scene = .hub) ∧ statusOf s r = 200
  := by
  obtain ⟨turn, q, fs, scene, hchoose, hthreads, hprogress, hfinished, hchoices, hhub⟩ :=
    Session.choose_scene (s := .new c.completed c.progress Parser.defaultLimit none) rfl h.threads
      h.progress (h.fits hacc) hne
  obtain ⟨now, s', hrun, hstock, hheld⟩ :=
    run_serveChoose h.stock h.holds h.storable hr.session hbody hacc hchoose
  obtain ⟨hnext, hstatus⟩ := next_of_ok hr hrun
  rw [hnext]
  exact ⟨_, fs, scene, ⟨hstock, hheld, hprogress, hthreads, .inScene scene hchoices hfinished⟩,
    rfl, rfl, hchoices, hhub, hstatus.trans (status_turn turn)⟩

/-- A choice that is accepted and ends the story leads to the end. -/
theorem choose_ending (h : Playing s c es chosen) (hr : r.Asks (.choose c.id) c.session)
    {choice : Text} (hbody : checkedBody r checkChoice = .ok choice) (hacc : c.Accepts choice)
    (hend : ChoiceKind.ofId choice = .endStory) :
  ∃ d, Playing (next s r) d es true ∧ d.session = c.session ∧ d.id = c.id ∧ d.finished = true
    ∧ statusOf s r = 200
  := by
  obtain ⟨turn, q, hchoose, hcompleted, hprogress, hfinished, hchoices⟩ :=
    Session.choose_endStory (s := .new c.completed c.progress Parser.defaultLimit none) rfl
      h.threads h.progress hend
  obtain ⟨now, s', hrun, hstock, hheld⟩ :=
    run_serveChoose h.stock h.holds h.storable hr.session hbody hacc hchoose
  have hthreads : Threads q.completed es := by
    rw [hcompleted]
    apply h.threads
  obtain ⟨hnext, hstatus⟩ := next_of_ok hr hrun
  rw [hnext]
  exact ⟨_, ⟨hstock, hheld, hprogress, hthreads, .ended hchoices hfinished⟩, rfl, rfl, hfinished,
    hstatus.trans (status_turn turn)⟩

end Playing

/-! ### Whole runs -/

/-- A request to start a conversation of a session or to take a choice in it. -/
def Request.Plays (r : Request) (session id : Text) : Prop :=
  r.Asks (.start id) session ∨ r.Asks (.choose id) session

/-- Whether one of the requests, answered one after another, takes a choice with success. -/
def HasChosen (session id : Text) : Store → List Request → Prop
  | _, [] => False
  | s, r :: rs =>
    (r.Asks (.choose id) session ∧ statusOf s r = 200) ∨ HasChosen session id (next s r) rs

theorem Request.Asks.unique {e' : Endpoint} (h : r.Asks e session) (h' : r.Asks e' session) :
  e = e'
  := by
  have he := h.endpoint.symm.trans h'.endpoint
  cases he
  rfl

namespace Playing

variable {c : Conversation} {es : Entries Stage} {chosen : Bool}

/-- A request leaves the conversation played, and a choice that was taken stays taken. -/
theorem step (h : Playing s c es chosen) (hr : r.Plays c.session c.id) :
  ∃ d fs taken, Playing (next s r) d fs taken ∧ d.session = c.session ∧ d.id = c.id
    ∧ (chosen = true → taken = true)
    ∧ (r.Asks (.choose c.id) c.session → statusOf s r = 200 → taken = true)
  := by
  obtain hr | hr := hr
  · obtain ⟨d, hd, hs, hi, -⟩ := h.start hr
    refine ⟨d, es, chosen, hd, hs, hi, id, ?_⟩
    intro hr' _
    cases hr.unique hr'
  · by_cases hacc : ∃ choice : Text, checkedBody r checkChoice = .ok ↑choice ∧ c.Accepts choice
    · obtain ⟨choice, hbody, hacc⟩ := hacc
      by_cases hend : ChoiceKind.ofId choice = .endStory
      · obtain ⟨d, hd, hs, hi, -⟩ := h.choose_ending hr hbody hacc hend
        exact ⟨d, es, true, hd, hs, hi, fun _ => rfl, fun _ _ => rfl⟩
      · obtain ⟨d, fs, scene, hd, hs, hi, -⟩ := h.choose_scene hr hbody hacc hend
        exact ⟨d, fs, true, hd, hs, hi, fun _ => rfl, fun _ _ => rfl⟩
    · obtain ⟨p, hrun, hp⟩ := run_serveChoose_refused h.holds h.storable hr.session
        fun choice hbody ha => hacc ⟨choice, hbody, ha⟩
      obtain ⟨hnext, hstatus⟩ := next_of_error hr hrun hp
      rw [hnext]
      exact ⟨c, es, chosen, h, rfl, rfl, id, fun _ h200 => absurd h200 hstatus⟩

/-- Behind the start a default choice is taken with success. -/
theorem hasChosen (h : Playing s c es chosen) (hu : c.IsUnstarted) {o : Choice}
    (ho : o ∈ Parser.defaultChoices) (henabled : o.disabled = false)
    (hname : Text.isBlankOnly o.id = false) :
  HasChosen c.session c.id s
    [startRequest c.session c.id, chooseRequest c.session c.id o.id]
  := by
  obtain ⟨hs, hi⟩ := h.isKey
  obtain ⟨d, hd, hds, hdi, hopened⟩ := h.start (startRequest_asks hs hi)
  have hchoices := hopened hu
  rw [← hchoices] at ho
  have hasks := chooseRequest_asks hs hi o.id
  rw [← hds, ← hdi] at hasks
  have hne : ChoiceKind.ofId o.id ≠ .endStory := by
    rw [hchoices] at ho
    obtain hk | hk := Parser.kind_defaultChoices o ho
    · rw [hk]
      simp
    · rw [hk]
      simp
  obtain ⟨_, _, _, -, -, -, -, -, hstatus⟩ := hd.choose_scene hasks
    (checkedBody_chooseRequest _ _ _) (hd.stands.accepts ho henabled hname) hne
  rw [hds, hdi] at hasks hstatus
  exact Or.inr (Or.inl ⟨hasks, hstatus⟩)

/-- Requests that are answered one after another leave the conversation played. -/
theorem run (h : Playing s c es chosen) {rs : List Request}
    (hrs : ∀ r ∈ rs, r.Plays c.session c.id) :
  ∃ d fs taken, Playing (after s rs) d fs taken ∧ d.session = c.session ∧ d.id = c.id
    ∧ (chosen = true ∨ HasChosen c.session c.id s rs → taken = true)
  := by
  induction rs generalizing s c es chosen with
  | nil => exact ⟨c, es, chosen, h, rfl, rfl, by simp [HasChosen]⟩
  | cons r rs ih =>
      obtain ⟨d, fs, taken, hd, hs, hi, hkeep, htake⟩ := h.step (hrs r List.mem_cons_self)
      have hrs' : ∀ q ∈ rs, q.Plays d.session d.id := by
        rw [hs, hi]
        exact fun q hq => hrs q (List.mem_cons_of_mem _ hq)
      obtain ⟨d', fs', taken', hd', hs', hi', hall⟩ := ih hd hrs'
      refine ⟨d', fs', taken', hd', hs'.trans hs, hi'.trans hi, ?_⟩
      rw [hs, hi] at hall
      rintro (hchosen | ⟨hr, hstatus⟩ | hlater)
      · exact hall (Or.inl (hkeep hchosen))
      · exact hall (Or.inl (htake hr hstatus))
      · exact hall (Or.inr hlater)

end Playing

/-! ### Ways to the end -/

/-- Whether at most `n` enabled choices, taken one after another, end the conversation of a
session that a store holds. -/
def EndsWithin (session id : Text) : Nat → Store → Prop
  | 0, s => ∃ c, Archive.find? s.disk session id = .ok (some c) ∧ c.finished = true
  | n + 1, s => ∃ c, Archive.find? s.disk session id = .ok (some c)
    ∧ (c.finished = true ∨ ∃ o ∈ c.choices, o.disabled = false
      ∧ EndsWithin session id n (next s (chooseRequest session id o.id)))

/-- What ends within some choices ends within more. -/
theorem EndsWithin.succ {id : Text} {n : Nat} (h : EndsWithin session id n s) :
  EndsWithin session id (n + 1) s
  := by
  induction n generalizing s with
  | zero =>
      obtain ⟨c, hfind, hf⟩ := h
      exact ⟨c, hfind, Or.inl hf⟩
  | succ n ih =>
      obtain ⟨c, hfind, hf | ⟨o, ho, henabled, hway⟩⟩ := h
      · exact ⟨c, hfind, Or.inl hf⟩
      · exact ⟨c, hfind, Or.inr ⟨o, ho, henabled, ih hway⟩⟩

namespace Playing

variable {c : Conversation} {es : Entries Stage} {chosen : Bool}

/-- From the hub one choice ends the story. -/
theorem endsWithin_one (h : Playing s c es chosen)
    (hc : c.choices = Scene.hub.offers c.completed es) :
  EndsWithin c.session c.id 1 s
  := by
  obtain ⟨hs, hi⟩ := h.isKey
  have hmem : Hub.ending ∈ c.choices := by
    rw [hc]
    apply Scene.ending_mem
  have hname : Text.isBlankOnly Hub.ending.id = false := by decide
  have hend : ChoiceKind.ofId Hub.ending.id = .endStory := by decide
  obtain ⟨d, hd, hds, hdi, hfinished, -⟩ := h.choose_ending (chooseRequest_asks hs hi Hub.ending.id)
    (checkedBody_chooseRequest _ _ _) (h.stands.accepts hmem rfl hname) hend
  have hfind := hd.find?
  rw [hds, hdi] at hfind
  exact ⟨c, h.find?, Or.inr ⟨Hub.ending, hmem, rfl, d, hfind, hfinished⟩⟩

/-- From where the hub is offered two choices end the story. -/
theorem endsWithin_two (h : Playing s c es chosen) {o : Choice} (ho : o ∈ c.choices)
    (henabled : o.disabled = false) (hname : Text.isBlankOnly o.id = false)
    (hhub : Route.showsHub (ChoiceKind.ofId o.id) = true) :
  EndsWithin c.session c.id 2 s
  := by
  obtain ⟨hs, hi⟩ := h.isKey
  have hne : ChoiceKind.ofId o.id ≠ .endStory := by
    intro he
    rw [he] at hhub
    cases hhub
  obtain ⟨d, fs, scene, hd, hds, hdi, hchoices, hscene, -⟩ :=
    h.choose_scene (chooseRequest_asks hs hi o.id) (checkedBody_chooseRequest _ _ _)
      (h.stands.accepts ho henabled hname) hne
  rw [hscene hhub] at hchoices
  have hone := hd.endsWithin_one hchoices
  rw [hds, hdi] at hone
  exact ⟨c, h.find?, Or.inr ⟨o, ho, henabled, hone⟩⟩

/-- A conversation that is played has not started or has ended, or offers an enabled choice
and ends with at most two. -/
theorem exists_way (h : Playing s c es chosen) :
  c.IsUnstarted ∨ (c.finished = true ∧ c.choices = [])
    ∨ (c.finished = false ∧ (∃ o ∈ c.choices, o.disabled = false)
      ∧ EndsWithin c.session c.id 2 s)
  := by
  have hstands := h.stands
  cases hstands with
  | unstarted hu _ => exact Or.inl hu
  | opened hc hf _ =>
      obtain ⟨o, ho, henabled, hname, hhub⟩ := Parser.exists_default
      rw [← hc] at ho
      exact Or.inr (Or.inr ⟨hf, ⟨o, ho, henabled⟩, h.endsWithin_two ho henabled hname hhub⟩)
  | inScene scene hc hf =>
      obtain rfl | ⟨o, ho, henabled, hname, hhub⟩ := scene.exists_wayBack c.completed es
      · have hmem : Hub.ending ∈ c.choices := by
          rw [hc]
          apply Scene.ending_mem
        exact Or.inr (Or.inr ⟨hf, ⟨_, hmem, rfl⟩, (h.endsWithin_one hc).succ⟩)
      · rw [← hc] at ho
        exact Or.inr (Or.inr ⟨hf, ⟨o, ho, henabled⟩, h.endsWithin_two ho henabled hname hhub⟩)
  | ended hc hf => exact Or.inr (Or.inl ⟨hf, hc⟩)

end Playing

/-- Whatever requests to start it and to take choices in it are answered, the conversation that
was created in a store of the story is stored and sound; it has not started, has ended, or
offers an enabled choice and ends with at most two; and once a choice was taken, every
enabled choice is of a kind that is recognized. -/
theorem playthrough_sound {s s₁ : Store} (hopens : s.Opens Fragment.prologue)
    (hsettings : (run Store.settings s).1 = .ok Settings.defaults) {session prompt : Text}
    {title : Option Text} {c₀ : Conversation}
    (hcreate : run (Store.create session prompt title) s = (.ok c₀, s₁)) {rs : List Request}
    (hrs : ∀ r ∈ rs, r.Plays c₀.session c₀.id) :
  ∃ c, Archive.find? (after s₁ rs).disk c₀.session c₀.id = .ok (some c)
    ∧ c.IsSound
    ∧ (c.IsUnstarted ∨ (c.finished = true ∧ c.choices = [])
      ∨ (c.finished = false ∧ (∃ o ∈ c.choices, o.disabled = false)
        ∧ EndsWithin c₀.session c₀.id 2 (after s₁ rs)))
    ∧ (HasChosen c₀.session c₀.id s₁ rs →
      ∀ o ∈ c.choices, o.disabled = false → ChoiceKind.ofId o.id ≠ .unrecognized)
  := by
  have hplaying := Playing.of_create ⟨hopens, hsettings⟩ hcreate
  obtain ⟨c, es, taken, hc, hs, hi, htaken⟩ := hplaying.run hrs
  have hfind := hc.find?
  have hway := hc.exists_way
  rw [hs, hi] at hfind hway
  refine ⟨c, hfind, hc.stands.isSound hc.threads hc.progress, hway, ?_⟩
  intro hchosen o ho henabled
  obtain rfl := htaken (Or.inr hchosen)
  apply hc.stands.recognized hc.threads ho henabled

/-- A new store in which a conversation is created and started and a thread is taken up. -/
theorem playthrough_sound_talking :
  ∃ c₀ s₁,
    (Store.new (.text Fragment.prologue) .counting).Opens Fragment.prologue
    ∧ (run Store.settings (Store.new (.text Fragment.prologue) .counting)).1 = .ok Settings.defaults
    ∧ run (Store.create "player" "Hello" none) (Store.new (.text Fragment.prologue) .counting)
      = (.ok c₀, s₁)
    ∧ (∀ r ∈ [startRequest c₀.session c₀.id, chooseRequest c₀.session c₀.id "talk_zhongli"],
      r.Plays c₀.session c₀.id)
    ∧ HasChosen c₀.session c₀.id s₁
      [startRequest c₀.session c₀.id, chooseRequest c₀.session c₀.id "talk_zhongli"]
    ∧ ∃ c, Archive.find? (after s₁
        [startRequest c₀.session c₀.id, chooseRequest c₀.session c₀.id "talk_zhongli"]).disk
        c₀.session c₀.id = .ok (some c)
      ∧ c.IsSound
      ∧ ∀ o ∈ c.choices, o.disabled = false → ChoiceKind.ofId o.id ≠ .unrecognized
  := by
  have hopens : (Store.new (.text Fragment.prologue) .counting).Opens Fragment.prologue :=
    ⟨rfl, Or.inl rfl⟩
  have hsettings : (run Store.settings (Store.new (.text Fragment.prologue) .counting)).1
      = .ok Settings.defaults := rfl
  have hdone : (run (Store.create "player" "Hello" none)
      (Store.new (.text Fragment.prologue) .counting)).1.isOk = true := by
    decide +kernel
  obtain ⟨c₀, s₁, hcreate⟩ := exists_of_isOk hdone
  have hplaying := Playing.of_create ⟨hopens, hsettings⟩ hcreate
  obtain ⟨hs, hi⟩ := hplaying.isKey
  have hplays : ∀ r ∈ [startRequest c₀.session c₀.id,
      chooseRequest c₀.session c₀.id "talk_zhongli"], r.Plays c₀.session c₀.id :=
    List.forall_mem_cons.mpr ⟨Or.inl (startRequest_asks hs hi),
      List.forall_mem_singleton.mpr (Or.inr (chooseRequest_asks hs hi _))⟩
  have hunstarted : c₀.IsUnstarted := by
    obtain ⟨-, -, _, _, _, rfl⟩ := Store.holds_of_create hcreate
    exact ⟨rfl, rfl, rfl⟩
  have hoffered : Parser.defaultChoices[1] ∈ Parser.defaultChoices := List.getElem_mem _
  have hchosen := hplaying.hasChosen hunstarted hoffered rfl (by decide +kernel)
  obtain ⟨c, hfind, hsound, -, hrecognized⟩ :=
    playthrough_sound hopens hsettings hcreate hplays
  exact ⟨c₀, s₁, hopens, hsettings, hcreate, hplays, hchosen, c, hfind, hsound,
    hrecognized hchosen⟩

end Http

end BranchingStory
