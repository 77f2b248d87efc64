import BranchingStory.Http.Service
import BranchingStory.Proofs.Narrative.Turn
import BranchingStory.Proofs.Record.Standing
import BranchingStory.Proofs.Store.Actions

/-!
# Starting a conversation and taking choices

How the service serves the start of a conversation that the store holds and the choices taken
in it: what is served puts the next version of the conversation in its place, and what is
refused leaves the store.
-/

namespace BranchingStory

open Operation

/-- A store with an opening and with settings that are read. -/
structure Store.Provides (s : Store) (opening : Text) (v : Settings) : Prop where
  opens : s.Opens opening
  settings : (run Store.settings s).1 = .ok v

/-- A store with the opening that belongs to the story and the default settings. -/
abbrev Store.IsStock (s : Store) : Prop :=
  s.Provides Fragment.prologue Settings.defaults

/-- Storing a conversation does not change the opening or the settings. -/
theorem Store.Provides.keeps {s s' : Store} {opening : Text} {v : Settings}
    (h : s.Provides opening v) (hk : s.Keeps s') :
  s'.Provides opening v
  where
  opens := ⟨hk.opening.trans h.opens.opening, hk.remembered ▸ h.opens.remembered⟩
  settings := (settings_congr hk.supply hk.settings).trans h.settings

/-- Remembering the opening leaves what a store provides. -/
theorem Store.Provides.remember {s : Store} {opening : Text} {v : Settings}
    (h : s.Provides opening v) :
  Provides { s with remembered := some (Text.unifyNewlines opening) } opening v
  where
  opens := ⟨h.opens.opening, Or.inr rfl⟩
  settings := by
    rw [← h.settings]
    apply settings_congr
    · rfl
    · rfl

namespace Http

/-! ### Problems -/

/-- A JSON response has the status that it was given, unless it broke down. -/
theorem status_json (n : Nat) (v : Json) :
  (Response.json n v).status = 500 ∨ (Response.json n v).status = n
  := by
  unfold Response.json
  split_ifs
  · exact Or.inl rfl
  · exact Or.inl rfl
  · exact Or.inr rfl

/-- A problem that is not answered as a success. -/
def Problem.IsFailure (p : Problem) : Prop :=
  p.response.status ≠ 200

/-- A rejected request has the status that it was rejected with, or it broke down. -/
theorem isFailure_rejected {n : Nat} (h : n ≠ 200) (detail : Text) :
  (Problem.rejected n detail).IsFailure
  := by
  intro hs
  obtain h' | h' := status_json n (.obj [("detail", .str detail)])
  · rw [Problem.response, h'] at hs
    cases hs
  · rw [Problem.response, h'] at hs
    apply h hs

/-- Issues with a request are no success. -/
theorem isFailure_invalid (issues : List Issue) (input : Json) :
  (Problem.invalid issues input).IsFailure
  := by
  intro hs
  simp only [Problem.response] at hs
  split_ifs at hs
  · cases hs
  · cases hs
  · obtain h | h := status_json 422 (Problem.issuesJson issues)
    · rw [h] at hs
      cases hs
    · rw [h] at hs
      cases hs

/-- A body that cannot be read is not answered as a success. -/
theorem readBody_isFailure {r : Request} {p : Problem} (h : readBody r = .error p) :
  p.IsFailure
  := by
  unfold readBody at h
  split at h
  · obtain rfl := Except.error.inj h
    apply isFailure_invalid
  · obtain rfl := Except.error.inj h
    apply isFailure_invalid
  · split_ifs at h
    split at h
    · unfold readJson at h
      split at h
      · cases h
      · obtain rfl := Except.error.inj h
        apply isFailure_invalid
      · obtain rfl := Except.error.inj h
        apply isFailure_rejected (by decide)
    · obtain rfl := Except.error.inj h
      apply isFailure_rejected (by decide)

/-- A body is read and passes its check, or it is not answered as a success. -/
theorem checkedBody_cases {α : Type} (r : Request) (check : Json → Checked α) :
  (∃ v a, readBody r = .ok v ∧ check v = .ok a ∧ checkedBody r check = .ok a)
    ∨ ∃ p, checkedBody r check = .error p ∧ p.IsFailure
  := by
  cases hb : readBody r with
  | error p =>
      right
      refine ⟨p, ?_, readBody_isFailure hb⟩
      rw [checkedBody, hb]
      rfl
  | ok v =>
      cases hc : Checked.under bodyStep (check v) with
      | ok a =>
          left
          refine ⟨v, a, rfl, Checked.under_eq_ok_iff.mp hc, ?_⟩
          rw [checkedBody, hb]
          simp only [bind, Except.bind, hc]
          rfl
      | error issues =>
          right
          refine ⟨_, ?_, isFailure_invalid issues (.obj [("body", v)])⟩
          rw [checkedBody, hb]
          simp only [bind, Except.bind, hc]
          rfl

/-- A value without numbers whose strings are texts is shown as it is. -/
theorem json_of_flat {n : Nat} {v : Json} (h : v.Flat n) (status : Nat) :
  Response.json status v
    = { status := status
        mediaType := some jsonType
        headers := []
        pieces := [Json.write .compact v]
        breakdown := none }
  := by
  have hfinite := Json.hasNonFinite_of_numberFree v h.numberFree
  rw [Response.json, if_neg (by simp [hfinite]), if_neg (by simp [h.hasHalf])]

/-- A turn is shown with success. -/
theorem status_turn (turn : Turn) :
  (Response.json 200 (Record.toJson turn)).status = 200
  := by
  have hflat : (Record.toJson turn).Flat 3 := turn.toJson_flat
  rw [json_of_flat hflat]

/-! ### Parts of handlers -/

/-- A handler goes on when nothing is refused. -/
theorem run_passed {α : Type} {condition : Bool} (h : condition = false) {n : Nat} {detail : Text}
    (f : Unit → Handler α) (s : Store) :
  run (refuseIf condition n detail >>= f) s = run (f ⟨⟩) s
  := by
  rw [h]
  rfl

/-- A handler ends when a request is refused. -/
theorem run_refused {α : Type} {condition : Bool} (h : condition = true) {n : Nat} (hn : n ≠ 200)
    (detail : Text) (f : Unit → Handler α) (s : Store) :
  ∃ p, run (refuseIf condition n detail >>= f) s = (.error p, s) ∧ p.IsFailure
  := by
  rw [h]
  exact ⟨_, rfl, isFailure_rejected hn detail⟩

/-- What was read of a request is had at once, and the store stays. -/
theorem run_ofRequest {α : Type} (r : Except Problem α) (s : Store) :
  run (ofRequest r) s = (r, s)
  := by
  cases r <;> rfl

/-- An operation does the same in a handler, and its faults break the request down. -/
theorem run_ofStore {α : Type} (x : Store.Action α) (s : Store) :
  run (ofStore x) s = ((run x s).1.mapError fun f => .broken (.store f), (run x s).2)
  := rfl

variable {s : Store} {opening : Text} {v : Settings} {c : Conversation} {a : Address}

/-- The key of a session is taken as it is. -/
theorem run_sessionKey {key : Text} (h : Key.isKey key = true) (s : Store) :
  run (sessionKey (some key)) s = (.ok key, s)
  := by
  have hc : Key.check Key.sessionRole key = .ok key := if_pos h
  cases key with
  | nil => cases h
  | cons x key =>
      rw [sessionKey, Option.getD_some]
      dsimp only
      rw [hc, run_pure]

/-- A conversation that the store holds is loaded. -/
theorem run_load (h : s.Holds c) (hs : c.IsStorable)
    (ha : a.field? sessionField = some c.session) :
  run (load a c.id) s = (.ok (c.session, c), s)
  := by
  obtain ⟨p, hp⟩ := h
  obtain ⟨hkey, -, -⟩ := Archive.path_eq_ok_iff.mp hp.path
  rw [load, ha, run_bind_ok (run_sessionKey hkey s), run_bind_ok (run_get s), hp.find? hs, run_pure]

/-- Settings that are read are read in a handler. -/
theorem run_settings (h : (run Store.settings s).1 = .ok v) :
  run (ofStore Store.settings) s = (.ok v, s)
  := by
  have hd : run Store.settings s = (.ok v, s) := Prod.ext h (by rw [Store.run_settings])
  rw [run_ofStore, hd]
  rfl

/-- A session goes on from a conversation with the tail limit of the settings. -/
theorem run_resume (h : s.Provides opening v) (c : Conversation) :
  run (resume c) s = (.ok (.new c.completed c.progress v.limit none), s)
  := by
  rw [resume, run_bind_ok (run_settings h.settings), run_pure]

/-! ### Starting a conversation -/

/-- What a start enters into a conversation. -/
def startRevision (turn : Turn) : Revision where
  segments := turn.segments
  choices := some turn.choices

/-- A conversation that has not started is started with the opening. -/
theorem run_serveStart (hs : s.Provides opening v) (h : s.Holds c) (hc : c.IsStorable)
    (ha : a.field? sessionField = some c.session) (hu : c.IsUnstarted)
    {turn : Turn} {session : Session}
    (hbegin : (Session.new c.completed c.progress v.limit none).begin
      (Text.unifyNewlines opening) false = (.ok turn, session)) :
  ∃ now s', run (serveStart a c.id) s = (.ok (.json 200 (Record.toJson turn)), s')
    ∧ s'.Provides opening v ∧ s'.Holds (c.revise (startRevision turn) now)
  := by
  -- The opening is remembered from here on.
  have hread : run (ofStore Store.openingText) s = (.ok (Text.unifyNewlines opening),
      { s with remembered := some (Text.unifyNewlines opening) }) := by
    rw [run_ofStore, Store.run_openingText hs.opens]
    rfl
  have h' : Store.Holds { s with remembered := some (Text.unifyNewlines opening) } c := h
  obtain ⟨now, s', hrevise, hheld, hkeeps⟩ := h'.run_revise? hc (startRevision turn)
  have hrevised : run (ofStore (Store.revise? c.session c.id (startRevision turn)))
      { s with remembered := some (Text.unifyNewlines opening) }
      = (.ok (some (c.revise (startRevision turn) now)), s') := by
    rw [run_ofStore, hrevise]
    rfl
  refine ⟨now, s', ?_, hs.remember.keeps hkeeps, hheld⟩
  rw [serveStart, run_bind_ok (run_load h hc ha)]
  dsimp only
  rw [run_passed (by simp [hu.segments, hu.choices, hu.finished]), run_bind_ok (run_resume hs c),
    run_bind_ok hread, hbegin, played, run_bind_ok (run_pure _ _)]
  dsimp only
  rw [← startRevision, run_bind_ok hrevised]
  rfl

/-- A conversation that has started is not started again. -/
theorem run_serveStart_refused (h : s.Holds c) (hc : c.IsStorable)
    (ha : a.field? sessionField = some c.session) (hu : ¬ c.IsUnstarted) :
  ∃ p, run (serveStart a c.id) s = (.error p, s) ∧ p.IsFailure
  := by
  have hcondition : (!c.segments.isEmpty || !c.choices.isEmpty || c.finished) = true := by
    by_contra hn
    simp only [Bool.or_eq_true, Bool.not_eq_true', not_or, Bool.not_eq_false, Bool.not_eq_true,
      List.isEmpty_iff] at hn
    exact hu ⟨hn.1.1, hn.1.2, hn.2⟩
  rw [serveStart, run_bind_ok (run_load h hc ha)]
  apply run_refused hcondition (by decide)

/-! ### Taking a choice -/

/-- What a choice enters into a conversation. -/
def choiceRevision (choice : Text) (turn : Turn) (session : Session) : Revision where
  segments := turn.segments
  choices := some turn.choices
  selected := choice
  completed := some session.completed
  progress := some session.progress
  finished := some session.finished

/-- A choice that a conversation accepts is taken. -/
theorem run_serveChoose (hs : s.Provides opening v) (h : s.Holds c) (hc : c.IsStorable)
    (ha : a.field? sessionField = some c.session) {r : Request} {choice : Text}
    (hr : checkedBody r checkChoice = .ok (.text choice)) (hacc : c.Accepts choice)
    {turn : Turn} {session : Session}
    (hchoose : (Session.new c.completed c.progress v.limit none).choose choice
      = (.ok turn, session)) :
  ∃ now s', run (serveChoose r a c.id) s = (.ok (.json 200 (Record.toJson turn)), s')
    ∧ s'.Provides opening v ∧ s'.Holds (c.revise (choiceRevision choice turn session) now)
  := by
  obtain ⟨o, hfind, henabled⟩ := hacc.enabled
  have hchoice : o.id = choice := by simpa using List.find?_some hfind
  have hoffered : c.choices.reverse.find? (.text ·.id == Str.text choice) = some o := by
    simp only [Str.text_beq_text]
    exact hfind
  have hblank : (Str.text choice).isBlankOnly = false := hacc.notBlank
  obtain ⟨now, s', hrevise, hheld, hkeeps⟩ :=
    h.run_revise? hc (choiceRevision choice turn session)
  have hrevised :
      run (ofStore (Store.revise? c.session c.id (choiceRevision choice turn session))) s
        = (.ok (some (c.revise (choiceRevision choice turn session) now)), s') := by
    rw [run_ofStore, hrevise]
    rfl
  have hany : c.choices.isEmpty = false := by
    have hmem := List.mem_reverse.mp (List.mem_of_find?_eq_some hfind)
    simpa using List.ne_nil_of_mem hmem
  refine ⟨now, s', ?_, hs.keeps hkeeps, hheld⟩
  rw [serveChoose, hr, run_bind_ok (run_ofRequest _ s), run_bind_ok (run_load h hc ha)]
  dsimp only
  rw [run_passed hblank, run_passed hacc.notFinished, run_passed hany, hoffered]
  dsimp only
  rw [run_passed henabled, run_bind_ok (run_resume hs c), hchoice, hchoose, played,
    run_bind_ok (run_pure _ _)]
  dsimp only
  rw [← choiceRevision, run_bind_ok hrevised]
  rfl

/-- A request whose choice is not accepted leaves the store. -/
theorem run_serveChoose_refused (h : s.Holds c) (hc : c.IsStorable)
    (ha : a.field? sessionField = some c.session) {r : Request}
    (hr : ∀ choice, checkedBody r checkChoice = .ok (.text choice) → ¬ c.Accepts choice) :
  ∃ p, run (serveChoose r a c.id) s = (.error p, s) ∧ p.IsFailure
  := by
  obtain ⟨_, choice, -, -, hbody⟩ | ⟨p, hbody, hp⟩ := checkedBody_cases r checkChoice
  · rw [serveChoose, hbody, run_bind_ok (run_ofRequest _ s), run_bind_ok (run_load h hc ha)]
    dsimp only
    cases hblank : choice.isBlankOnly with
    | true => apply run_refused rfl (by decide)
    | false =>
        rw [run_passed rfl]
        cases hfinished : c.finished with
        | true => apply run_refused rfl (by decide)
        | false =>
            rw [run_passed rfl]
            cases hempty : c.choices.isEmpty with
            | true => apply run_refused rfl (by decide)
            | false =>
                rw [run_passed rfl]
                cases hfind : c.choices.reverse.find? (.text ·.id == choice) with
                | none => exact ⟨_, rfl, isFailure_rejected (by decide) _⟩
                | some o =>
                    obtain rfl : Str.text o.id = choice := by simpa using List.find?_some hfind
                    simp only [Str.text_beq_text] at hfind
                    have hdisabled : o.disabled = true := by
                      by_contra hd
                      exact hr o.id hbody ⟨hblank, hfinished, o, hfind, by simpa using hd⟩
                    apply run_refused hdisabled (by decide)
  · refine ⟨p, ?_, hp⟩
    rw [serveChoose, hbody, run_bind_error (run_ofRequest _ s)]

end Http

end BranchingStory
