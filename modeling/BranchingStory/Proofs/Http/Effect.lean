import BranchingStory.Proofs.Http.Playthrough
import BranchingStory.Proofs.Store.Effect

/-!
# What requests change

Every request lets a tidy store evolve, whatever it asks for and whatever its body holds; only
requests that delete conversations take any away.
-/

namespace BranchingStory

open Operation

namespace Http

variable {α : Type} {s : Store} {r : Request} {a : Address} {gone : Text → Text → Prop}

/-! ### Handlers that only read -/

/-- An operation that only reads the store only reads it as part of a handler. -/
theorem reads_ofStore {x : Store.Action α} (h : Reads x) :
  Reads (ofStore x)
  := h

/-- The outcome of reading a request leaves the store. -/
theorem reads_ofRequest (outcome : Except Problem α) :
  Reads (ofRequest outcome)
  := by
  cases outcome with
  | error p => apply reads_throw
  | ok a => apply reads_pure

/-- Whether a request is refused or not, the store stays. -/
theorem reads_refuseIf (condition : Bool) (status : Nat) (detail : Text) :
  Reads (refuseIf condition status detail)
  := by
  unfold refuseIf
  split_ifs
  · apply reads_throw
  · apply reads_pure

/-- Taking the session key of a request leaves the store. -/
theorem reads_sessionKey (session : Option Text) :
  Reads (sessionKey session)
  := by
  unfold sessionKey
  split
  · apply reads_throw
  · split
    · apply reads_pure
    · apply reads_throw

/-- Taking a string for a session key leaves the store. -/
theorem reads_strKey (session : Str) :
  Reads (strKey session)
  := by
  unfold strKey
  split
  · apply reads_sessionKey
  · apply reads_throw

/-- Loading a conversation leaves the store. -/
theorem reads_load (a : Address) (id : Text) :
  Reads (load a id)
  := by
  refine (reads_sessionKey _).bind fun key => reads_get.bind fun s => ?_
  split
  · apply reads_pure
  · apply reads_throw
  · apply reads_throw

/-- Resuming a conversation leaves the store. -/
theorem reads_resume (c : Conversation) :
  Reads (resume c)
  := (reads_ofStore Store.reads_settings).bind fun _ => reads_pure _

/-- Playing a step of a session leaves the store. -/
theorem reads_played (step : Except Parser.Fault Turn × Session) :
  Reads (played step)
  := by
  unfold played
  split
  · apply reads_pure
  · apply reads_throw

/-- Sending a text in pieces leaves the store. -/
theorem reads_stream (t : Text) (headers : Entries Text) :
  Reads (stream t headers)
  := by
  refine (reads_ofStore Store.reads_settings).bind fun settings => ?_
  split
  · apply reads_throw
  · apply reads_pure

/-- Finding the route of a request leaves the store. -/
theorem reads_routeOf (r : Request) :
  Reads (routeOf r)
  := (reads_ofRequest _).bind fun _ => (reads_refuseIf _ _ _).bind fun _ => reads_pure _

/-- Showing a value leaves the store. -/
theorem reads_shown (v : Json) :
  Reads (shown v)
  := reads_pure _

theorem reads_shownRecord [Record α] (a : α) :
  Reads (shownRecord a)
  := reads_pure _

/-- Serving a fragment leaves the store. -/
theorem reads_serveStory (r : Request) :
  Reads (serveStory r)
  := (reads_routeOf r).bind fun _ => reads_stream _ _

/-- Listing the conversations of a session leaves the store. -/
theorem reads_serveConversations (a : Address) :
  Reads (serveConversations a)
  := (reads_sessionKey _).bind fun key =>
    (reads_ofStore (Store.reads_all key)).bind fun _ => reads_shown _

/-- Exporting a session leaves the store. -/
theorem reads_serveExport (a : Address) :
  Reads (serveExport a)
  := (reads_sessionKey _).bind fun key =>
    (reads_ofStore (Store.reads_exportText key)).bind fun _ => reads_pure _

/-- Showing the last segments of a conversation leaves the store. -/
theorem reads_serveContext (a : Address) (id : Text) :
  Reads (serveContext a id)
  := (reads_ofRequest _).bind fun n => (reads_load a id).bind fun loaded =>
    (reads_ofStore (Store.reads_context loaded.1 id n)).bind fun _ => reads_shown _

/-! ### What is read -/

/-- The key that is taken is the one that a request names. -/
theorem eq_of_sessionKey {session : Option Text} {key : Text}
    (h : run (sessionKey session) s = (.ok key, s)) :
  session = some key
  := by
  obtain _ | _ | ⟨x, t⟩ := session
  · cases congrArg Prod.fst h
  · cases congrArg Prod.fst h
  · rw [sessionKey, Option.getD_some] at h
    dsimp only at h
    cases hc : Key.check Key.sessionRole (x :: t) with
    | error f =>
        rw [hc] at h
        cases congrArg Prod.fst h
    | ok k =>
        rw [hc] at h
        rw [Key.check] at hc
        split_ifs at hc
        rw [Except.ok.inj hc, Except.ok.inj (congrArg Prod.fst h)]

/-- The key that is taken is the string itself, which is a text. -/
theorem text?_of_strKey {session : Str} {key : Text}
    (h : run (strKey session) s = (.ok key, s)) :
  session.text? = some key
  := by
  cases session with
  | text t => exact eq_of_sessionKey h
  | half lead h' rest => cases congrArg Prod.fst h

/-- A conversation that is loaded is found under the session that the request names. -/
theorem find?_of_load {id key : Text} {c : Conversation}
    (h : run (load a id) s = (.ok (key, c), s)) :
  a.field? sessionField = some key ∧ Archive.find? s.disk key id = .ok (some c)
  := by
  have hkey := reads_sessionKey (a.field? sessionField) s
  rw [load] at h
  cases hr : run (sessionKey (a.field? sessionField)) s with
  | mk outcome s' =>
      rw [hr] at hkey
      obtain rfl : s' = s := hkey
      cases outcome with
      | error p =>
          rw [run_bind_error hr] at h
          cases congrArg Prod.fst h
      | ok key' =>
          rw [run_bind_ok hr, run_bind_ok (run_get _)] at h
          split at h
          · next d hfind =>
            obtain ⟨rfl, rfl⟩ := Prod.mk.inj (Except.ok.inj (congrArg Prod.fst h))
            exact ⟨eq_of_sessionKey hr, hfind⟩
          · cases congrArg Prod.fst h
          · cases congrArg Prod.fst h

/-- A request that goes on was not refused. -/
theorem of_refuseIf {condition : Bool} {n : Nat} {detail : Text} {u : Unit}
    (h : run (refuseIf condition n detail) s = (.ok u, s)) :
  condition = false
  := by
  cases condition with
  | false => rfl
  | true => cases congrArg Prod.fst h

/-- A turn that is played comes from a step that succeeded. -/
theorem of_played {step : Except Parser.Fault Turn × Session} {turn : Turn} {session : Session}
    (h : run (played step) s = (.ok (turn, session), s)) :
  step = (.ok turn, session)
  := by
  obtain ⟨f | t, q⟩ := step
  · cases congrArg Prod.fst h
  · obtain ⟨rfl, rfl⟩ := Prod.mk.inj (Except.ok.inj (congrArg Prod.fst h))
    rfl

/-- A session that goes on from a conversation has the threads of the conversation. -/
theorem of_resume {c : Conversation} {session : Session}
    (h : run (resume c) s = (.ok session, s)) :
  ∃ limit, session = .new c.completed c.progress limit none
  := by
  rw [resume] at h
  cases hr : run (ofStore Store.settings) s with
  | mk outcome s' =>
      cases outcome with
      | error p =>
          rw [run_bind_error hr] at h
          cases congrArg Prod.fst h
      | ok v =>
          rw [run_bind_ok hr] at h
          exact ⟨v.limit, (Except.ok.inj (congrArg Prod.fst h)).symm⟩

/-! ### Endpoints that change the store -/

open Store (Evolves)

/-- Requests that take a conversation away. -/
def Request.Removes (r : Request) (session id : Text) : Prop :=
  r.Asks (.delete id) session ∨ r.Asks .clear session

/-- Serving the opening leaves the store as it is, or as reading the opening leaves it. -/
theorem run_serveOpening_snd (s : Store) :
  (run serveOpening s).2 = s ∨ (run serveOpening s).2 = (run Store.openingText s).2
  := by
  have hrun : Store.openingText.run s = run Store.openingText s := rfl
  rw [serveOpening, run_bind_ok (run_get s), hrun]
  cases run Store.openingText s with
  | mk outcome s' =>
      cases outcome with
      | error f =>
          left
          split
          · next heq => cases congrArg Prod.fst heq
          · rfl
          · rfl
      | ok t =>
          right
          dsimp only
          rw [run_bind_ok (run_set _ _), reads_stream]

/-- Serving the opening lets the store evolve. -/
theorem evolves_serveOpening (s : Store) :
  Evolves gone s (run serveOpening s).2
  := by
  obtain hsame | hread := run_serveOpening_snd s
  · rw [hsame]
    apply Evolves.refl
  · obtain ⟨m, hm⟩ := Store.run_openingText_snd s
    rw [hread, hm]
    exact .of_disk rfl rfl le_rfl

/-- Creating a conversation lets the store evolve. -/
theorem evolves_serveCreate (r : Request) (s : Store) :
  Evolves gone s (run (serveCreate r) s).2
  := by
  rw [serveCreate]
  refine (reads_ofRequest _).run_bind (P := Evolves gone s) (.refl s) fun b _ => ?_
  refine (reads_refuseIf _ _ _).run_bind (P := Evolves gone s) (.refl s) fun _ _ => ?_
  refine (reads_strKey _).run_bind (P := Evolves gone s) (.refl s) fun key _ => ?_
  rw [run_bind_reads fun _ => reads_shown _]
  cases b.texts? with
  | none => exact Store.evolves_createBroken key s
  | some texts => exact Store.evolves_create key texts.1 texts.2 s

/-- Clearing a session takes away no conversations but those of the session. -/
theorem evolves_serveClear (hgone : ∀ key, a.field? sessionField = some key → ∀ id, gone key id)
    (s : Store) :
  Evolves gone s (run (serveClear a) s).2
  := by
  rw [serveClear]
  refine (reads_sessionKey _).run_bind (P := Evolves gone s) (.refl s) fun key hkey => ?_
  rw [run_bind_reads fun _ => reads_shown _]
  exact (Store.thins_clear (hgone key (eq_of_sessionKey hkey)) s).evolves

/-- Deleting a conversation takes away no other one. -/
theorem evolves_serveDelete {id : Text}
    (hgone : ∀ key, a.field? sessionField = some key → gone key id) (s : Store) :
  Evolves gone s (run (serveDelete a id) s).2
  := by
  rw [serveDelete]
  refine (reads_load a id).run_bind (P := Evolves gone s) (.refl s) fun loaded hload => ?_
  dsimp only
  rw [run_bind_reads fun _ => reads_shown _]
  exact (Store.thins_delete (hgone loaded.1 (find?_of_load hload).1) s).evolves

/-- A body revises no threads. -/
theorem suits_revision (b : RevisionBody) (c : Conversation) :
  c.Suits b.revision
  := .still rfl rfl rfl

/-- The turn of a choice suits the conversation that it is taken in, if that has not ended. -/
theorem suits_choice {c : Conversation} (hfinished : c.finished = false) {session q : Session}
    (hsession : run (resume c) s = (.ok session, s)) {choice : Text} {turn : Turn}
    (hstep : run (played (session.choose choice)) s = (.ok (turn, q), s)) :
  c.Suits (choiceRevision choice turn q)
  := by
  obtain ⟨limit, rfl⟩ := of_resume hsession
  obtain ⟨script, q', -, -, hchoose, hlike, -⟩ := Session.choose_turn
    (s := .new c.completed c.progress limit none) rfl choice
  have hsame := (of_played hstep).symm.trans hchoose
  obtain rfl : q = q' := congrArg Prod.snd hsame
  exact .choice choice hfinished (congrArg some hlike.completed) (congrArg some hlike.progress)

/-- Revising a conversation lets a tidy store evolve. -/
theorem evolves_serveRevise (h : s.IsTidy) (r : Request) (a : Address) (id : Text) :
  Evolves gone s (run (serveRevise r a id) s).2
  := by
  rw [serveRevise]
  refine (reads_ofRequest _).run_bind (P := Evolves gone s) (.refl s) fun b _ => ?_
  refine (reads_load a id).run_bind (P := Evolves gone s) (.refl s) fun loaded hload => ?_
  dsimp only
  rw [run_bind_reads fun _ => reads_shown _]
  cases b with
  | none => exact Store.evolves_reviseBroken? s
  | some b => exact Store.evolves_revise? h fun c _ => suits_revision b c

/-- Starting a conversation lets a tidy store evolve. -/
theorem evolves_serveStart (h : s.IsTidy) (a : Address) (id : Text) :
  Evolves gone s (run (serveStart a id) s).2
  := by
  rw [serveStart]
  refine (reads_load a id).run_bind (P := Evolves gone s) (.refl s) fun loaded hload => ?_
  dsimp only
  refine (reads_refuseIf _ _ _).run_bind (P := Evolves gone s) (.refl s) fun _ _ => ?_
  refine (reads_resume _).run_bind (P := Evolves gone s) (.refl s) fun session _ => ?_
  obtain ⟨m, hm⟩ := Store.run_openingText_snd s
  have hread : (run (ofStore Store.openingText) s).2 = { s with remembered := m } := hm
  refine snd_run_bind (P := Evolves gone s) ?_ fun opening s' hs' => ?_
  · rw [hread]
    exact .of_disk rfl rfl le_rfl
  · rw [hs'] at hread
    obtain rfl : s' = _ := hread
    apply Store.Evolves.of_remembered (m := m)
    refine (reads_played _).run_bind (P := Evolves gone _) (.refl _) fun step _ => ?_
    rw [run_bind_reads fun _ => reads_shownRecord _]
    exact Store.evolves_revise? (s := { s with remembered := m }) h fun c _ => .still rfl rfl rfl

theorem evolves_serveChoose (h : s.IsTidy) (r : Request) (a : Address) (id : Text) :
  Evolves gone s (run (serveChoose r a id) s).2
  := by
  rw [serveChoose]
  refine (reads_ofRequest _).run_bind (P := Evolves gone s) (.refl s) fun choice _ => ?_
  refine (reads_load a id).run_bind (P := Evolves gone s) (.refl s) fun loaded hload => ?_
  obtain ⟨key, c⟩ := loaded
  dsimp only
  refine (reads_refuseIf _ _ _).run_bind (P := Evolves gone s) (.refl s) fun _ _ => ?_
  refine (reads_refuseIf _ _ _).run_bind (P := Evolves gone s) (.refl s) fun _ hfinished => ?_
  refine (reads_refuseIf _ _ _).run_bind (P := Evolves gone s) (.refl s) fun _ _ => ?_
  cases c.choices.reverse.find? (.text ·.id == choice) with
  | none => apply Evolves.refl
  | some offered =>
      dsimp only
      refine (reads_refuseIf _ _ _).run_bind (P := Evolves gone s) (.refl s) fun _ _ => ?_
      refine (reads_resume c).run_bind (P := Evolves gone s) (.refl s) fun session hsession => ?_
      refine (reads_played _).run_bind (P := Evolves gone s) (.refl s) fun step hstep => ?_
      obtain ⟨turn, q⟩ := step
      dsimp only
      rw [run_bind_reads fun _ => reads_shownRecord _]
      -- The conversation that is revised is the one that was loaded.
      apply Store.evolves_revise? h
      intro d hd
      rw [(find?_of_load hload).2] at hd
      obtain rfl : c = d := Option.some.inj (Except.ok.inj hd)
      exact suits_choice (of_refuseIf hfinished) hsession hstep

/-! ### All requests -/

/-- Every endpoint lets a tidy store evolve. -/
theorem evolves_serve (h : s.IsTidy) (r : Request) (a : Address) (e : Endpoint)
    (hdelete : ∀ id key, e = .delete id → a.field? sessionField = some key → gone key id)
    (hclear : ∀ key, e = .clear → a.field? sessionField = some key → ∀ id, gone key id) :
  Evolves gone s (run (serve r a e) s).2
  := by
  have hreads {x : Handler Response} (hx : Reads x) : Evolves gone s (run x s).2 := by
    rw [hx s]
    apply Evolves.refl
  cases e with
  | health => exact hreads (reads_shown _)
  | settings => exact hreads ((reads_ofStore Store.reads_settings).bind fun _ => reads_shown _)
  | changeSettings =>
      refine (reads_ofRequest _).run_bind (P := Evolves gone s) (.refl s) fun fields _ => ?_
      rw [run_bind_reads fun _ => reads_shown _]
      exact (Store.configures_changeSettings fields s).evolves
  | opening => apply evolves_serveOpening
  | story => exact hreads (reads_serveStory r)
  | route => exact hreads ((reads_routeOf r).bind fun _ => reads_pure _)
  | conversations => exact hreads (reads_serveConversations a)
  | create => apply evolves_serveCreate
  | clear => exact evolves_serveClear (fun key => hclear key rfl) s
  | exportAll => exact hreads (reads_serveExport a)
  | conversation id => exact hreads ((reads_load a id).bind fun _ => reads_shown _)
  | revise id => exact evolves_serveRevise h r a id
  | delete id => exact evolves_serveDelete (fun key => hdelete id key rfl) s
  | context id => exact hreads (reads_serveContext a id)
  | start id => exact evolves_serveStart h a id
  | choose id => exact evolves_serveChoose h r a id

/-- What the answer to a request makes of a store is what serving it makes. -/
theorem next_eq (s : Store) (r : Request) :
  next s r = (run (handle r (Address.ofText r.address)) s).2
  := by
  rw [next, answer_run]
  cases run (handle r (Address.ofText r.address)) s with
  | mk outcome s' => cases outcome <;> rfl

/-- Every request lets a tidy store evolve, and takes no conversation away that it does not
delete. -/
theorem evolves_next (h : s.IsTidy) (r : Request) :
  Evolves r.Removes s (next s r)
  := by
  rw [next_eq, handle]
  split
  · next e he =>
    apply evolves_serve h
    · rintro id key rfl hkey
      exact Or.inl ⟨he, hkey⟩
    · rintro key rfl hkey id
      exact Or.inr ⟨he, hkey⟩
  · apply Evolves.refl
  · apply Evolves.refl
  · apply Evolves.refl

end Http

end BranchingStory
