import BranchingStory.Proofs.Http.Failure
import BranchingStory.Proofs.Store.Apart

/-!
# Sessions apart

What is answered to the requests of one session, and what is stored for it, does not depend on
the requests of others: it is the same when only its own requests are made, with the same ids and
time stamps.
-/

namespace BranchingStory

open Operation

namespace Http

open Store (Coincides coincides_of_const coincides_pure coincides_throw)

variable {α : Type} {key : Text} {r : Request} {a : Address} {s t : Store}

/-! ### Parts of handlers -/

/-- An operation on the store coincides as part of a handler too. -/
theorem coincides_ofStore {x : Store.Action α} (h : Coincides key x) :
  Coincides key (ofStore x)
  := by
  intro s t hst
  obtain ⟨houtcome, htwins⟩ := h s t hst
  rw [run_ofStore, run_ofStore, houtcome]
  exact ⟨rfl, htwins⟩

/-- What was read of a request is the same in both stores. -/
theorem coincides_ofRequest (outcome : Except Problem α) :
  Coincides key (ofRequest outcome)
  := coincides_of_const (run_ofRequest outcome)

/-- A request is refused in both stores or in none. -/
theorem coincides_refuseIf (condition : Bool) (status : Nat) (detail : Text) :
  Coincides key (refuseIf condition status detail)
  := by
  unfold refuseIf
  split_ifs
  · apply coincides_throw
  · apply coincides_pure

/-- The session key of a request is the same in both stores. -/
theorem coincides_sessionKey (session : Option Text) :
  Coincides key (sessionKey session)
  := by
  unfold sessionKey
  split
  · apply coincides_throw
  · split
    · apply coincides_pure
    · apply coincides_throw

/-- A string is taken for the same session key in both stores. -/
theorem coincides_strKey (session : Str) :
  Coincides key (strKey session)
  := by
  unfold strKey
  split
  · apply coincides_sessionKey
  · apply coincides_throw

/-- A session is served under its own key. -/
theorem coincides_sessionKey_bind {session : Option Text} {f : Text → Handler α}
    (h : session = some key) (hf : Coincides key (f key)) :
  Coincides key (sessionKey session >>= f)
  := by
  apply (coincides_sessionKey session).bind_of_run
  intro key' s s' hrun
  obtain rfl : s' = s := by rw [← reads_sessionKey session s, hrun]
  obtain rfl : key = key' := Option.some.inj (h.symm.trans (eq_of_sessionKey hrun))
  exact hf

/-- Stores that are alike for a session load the same conversation of it. -/
theorem coincides_load (h : a.field? sessionField = some key) (id : Text) :
  Coincides key (load a id)
  := by
  apply coincides_sessionKey_bind h
  intro s t hst
  rw [run_bind_ok (run_get s), run_bind_ok (run_get t), Archive.find?_congr hst.shelf id]
  split
  · exact coincides_pure _ s t hst
  · exact coincides_throw _ s t hst
  · exact coincides_throw _ s t hst

/-- A session is served with conversations that are loaded under its own key. -/
theorem coincides_load_bind {id : Text} {f : Text × Conversation → Handler α}
    (h : a.field? sessionField = some key) (hf : ∀ c, Coincides key (f (key, c))) :
  Coincides key (load a id >>= f)
  := by
  apply (coincides_load h id).bind_of_run
  rintro ⟨key', c⟩ s s' hrun
  obtain rfl : s' = s := by rw [← reads_load a id s, hrun]
  obtain rfl : key = key' := Option.some.inj (h.symm.trans (find?_of_load hrun).1)
  exact hf c

/-- A conversation is resumed alike with the same settings. -/
theorem coincides_resume (c : Conversation) :
  Coincides key (resume c)
  := (coincides_ofStore Store.coincides_settings).bind fun _ => coincides_pure _

/-- A step of a session is played alike. -/
theorem coincides_played (step : Except Parser.Fault Turn × Session) :
  Coincides key (played step)
  := by
  unfold played
  split
  · apply coincides_pure
  · apply coincides_throw

/-- A value is shown alike. -/
theorem coincides_shown (v : Json) :
  Coincides key (shown v)
  := coincides_pure _

/-- A record is shown alike. -/
theorem coincides_shownRecord [Record α] (a : α) :
  Coincides key (shownRecord a)
  := coincides_pure _

/-! ### Endpoints -/

/-- The conversations of a session are shown alike. -/
theorem coincides_serveConversations (h : a.field? sessionField = some key) :
  Coincides key (serveConversations a)
  := by
  apply coincides_sessionKey_bind h
  exact (coincides_ofStore Store.coincides_all).bind fun _ => coincides_shown _

/-- A conversation is created alike. -/
theorem coincides_serveCreate (r : Request) :
  Coincides key (serveCreate r)
  := by
  apply (coincides_ofRequest _).bind
  intro b
  apply (coincides_refuseIf _ _ _).bind
  intro _
  apply (coincides_strKey _).bind
  intro session
  refine (coincides_ofStore ?_).bind fun _ => coincides_shown _
  cases b.texts? with
  | none => apply Store.coincides_createBroken
  | some texts => apply Store.coincides_create

/-- A session is cleared alike. -/
theorem coincides_serveClear (h : a.field? sessionField = some key) :
  Coincides key (serveClear a)
  := by
  apply coincides_sessionKey_bind h
  exact (coincides_ofStore Store.coincides_clear).bind fun _ => coincides_shown _

/-- A session is exported alike. -/
theorem coincides_serveExport (h : a.field? sessionField = some key) :
  Coincides key (serveExport a)
  := by
  apply coincides_sessionKey_bind h
  exact (coincides_ofStore Store.coincides_exportText).bind fun _ => coincides_pure _

/-- A conversation of a session is revised alike. -/
theorem coincides_serveRevise (h : a.field? sessionField = some key) (r : Request) (id : Text) :
  Coincides key (serveRevise r a id)
  := by
  apply (coincides_ofRequest _).bind
  intro b
  apply coincides_load_bind h
  intro c
  refine (coincides_ofStore ?_).bind fun _ => coincides_shown _
  cases b with
  | none => apply Store.coincides_reviseBroken?
  | some b => apply Store.coincides_revise?

/-- A conversation of a session is deleted alike. -/
theorem coincides_serveDelete (h : a.field? sessionField = some key) (id : Text) :
  Coincides key (serveDelete a id)
  := by
  apply coincides_load_bind h
  intro c
  exact (coincides_ofStore (Store.coincides_delete _)).bind fun _ => coincides_shown _

/-- The last segments of a conversation of a session are shown alike. -/
theorem coincides_serveContext (h : a.field? sessionField = some key) (id : Text) :
  Coincides key (serveContext a id)
  := by
  apply (coincides_ofRequest _).bind
  intro n
  apply coincides_load_bind h
  intro c
  exact (coincides_ofStore (Store.coincides_context _ _)).bind fun _ => coincides_shown _

/-- A conversation of a session is started alike. -/
theorem coincides_serveStart (h : a.field? sessionField = some key) (id : Text) :
  Coincides key (serveStart a id)
  := by
  apply coincides_load_bind h
  intro c
  apply (coincides_refuseIf _ _ _).bind
  intro _
  apply (coincides_resume _).bind
  intro session
  apply (coincides_ofStore Store.coincides_openingText).bind
  intro opening
  apply (coincides_played _).bind
  intro step
  exact (coincides_ofStore (Store.coincides_revise? _ _)).bind
    fun _ => coincides_shownRecord _

theorem coincides_serveChoose (h : a.field? sessionField = some key) (r : Request) (id : Text) :
  Coincides key (serveChoose r a id)
  := by
  apply (coincides_ofRequest _).bind
  intro choice
  apply coincides_load_bind h
  intro c
  apply (coincides_refuseIf _ _ _).bind
  intro _
  apply (coincides_refuseIf _ _ _).bind
  intro _
  apply (coincides_refuseIf _ _ _).bind
  intro _
  split
  · apply coincides_throw
  · apply (coincides_refuseIf _ _ _).bind
    intro _
    apply (coincides_resume _).bind
    intro session
    apply (coincides_played _).bind
    intro step
    exact (coincides_ofStore (Store.coincides_revise? _ _)).bind
      fun _ => coincides_shownRecord _

/-- Every endpoint under the conversations serves a session alike in twins. -/
theorem coincides_serve {e : Endpoint} (h : sessionOf r a e = some key)
    (he : e ∉ Endpoint.others) :
  Coincides key (serve r a e)
  := by
  cases e with
  | create => apply coincides_serveCreate
  | conversations => exact coincides_serveConversations h
  | clear => exact coincides_serveClear h
  | exportAll => exact coincides_serveExport h
  | conversation id =>
      exact coincides_load_bind h fun _ => coincides_shown _
  | revise id => exact coincides_serveRevise h r id
  | delete id => exact coincides_serveDelete h id
  | context id => exact coincides_serveContext h id
  | start id => exact coincides_serveStart h id
  | choose id => exact coincides_serveChoose h r id
  | health | settings | changeSettings | opening | story | route =>
      exact absurd (by simp [Endpoint.others]) he

/-! ### Requests -/

/-- Every request leaves a store orderly. -/
theorem isOrderly_next (h : s.IsOrderly) (r : Request) :
  (next s r).IsOrderly
  := by
  rw [next_eq]
  by_cases hr : r.ChangesSettings
  · rw [handle, hr]
    dsimp only [serve]
    refine (reads_ofRequest _).run_bind (P := Store.IsOrderly) h fun fields _ => ?_
    rw [run_bind_reads fun _ => reads_shown _]
    exact (Store.configures_changeSettings fields s).isOrderly h
  · exact (acts_handle h.filed hr).isOrderly h

/-- A store is orderly behind any requests. -/
theorem isOrderly_after (h : s.IsOrderly) (rs : List Request) :
  (after s rs).IsOrderly
  := by
  induction rs generalizing s with
  | nil => exact h
  | cons r rs ih => exact ih (isOrderly_next h r)

/-- A request of a session is answered alike in twins, and leaves them twins. -/
theorem answer_of_twins (hr : r.OnConversations) (hkey : r.session? = some key)
    (h : Store.Twins key s t) :
  ((answer r).run s).1 = ((answer r).run t).1 ∧ Store.Twins key (next s r) (next t r)
  := by
  have hhandle : Coincides key (handle r (Address.ofText r.address)) := by
    rw [Request.session?] at hkey
    rw [handle]
    cases hl : Endpoint.lookup r.method (Address.ofText r.address).path with
    | found e =>
        rw [hl] at hkey
        exact coincides_serve hkey (hr.notMem_others hl)
    | otherMethod => apply coincides_throw
    | trailingSlash => apply coincides_pure
    | missing => apply coincides_throw
  obtain ⟨houtcome, htwins⟩ := hhandle s t h
  rw [next_eq, next_eq, answer_run, answer_run]
  refine ⟨?_, htwins⟩
  cases hs : run (handle r (Address.ofText r.address)) s with
  | mk outcome s' =>
      cases ht : run (handle r (Address.ofText r.address)) t with
      | mk outcome' t' =>
          rw [hs, ht] at houtcome
          obtain rfl : outcome = outcome' := houtcome
          cases outcome <;> rfl

/-- A request of another session leaves a store alike to this one. -/
theorem alike_next (hf : Archive.IsFiled s.disk) (hr : r.OnConversations)
    (hkey : r.session? ≠ some key) (h : Store.Alike key s t) :
  Store.Alike key (next s r) t
  := by
  rw [next_eq]
  exact (acts_handle hf hr.not_changesSettings).alike hkey h

/-! ### Runs of requests -/

/-- Answers requests one after another, each with the ids and time stamps that are handed to it:
the requests with their responses, and the store afterwards. -/
def answerAll : Store → List (Request × Supply) → List (Request × Response) × Store
  | s, [] => ([], s)
  | s, (r, supply) :: qs =>
    let (response, s) := (answer r).run (s.hand supply)
    let (exchanges, s) := answerAll s qs
    ((r, response) :: exchanges, s)

/-- The first request is answered with the supply that came with it, and the others behind it. -/
theorem answerAll_cons (s : Store) (r : Request) (supply : Supply) (qs : List (Request × Supply)) :
  answerAll s ((r, supply) :: qs)
    = ((r, ((answer r).run (s.hand supply)).1) :: (answerAll (next (s.hand supply) r) qs).1,
        (answerAll (next (s.hand supply) r) qs).2)
  := rfl

/-- The requests of a session. -/
def own (key : Text) (qs : List (Request × Supply)) : List (Request × Supply) :=
  qs.filter fun q => q.1.session? = some key

/-- Among alike stores the requests of a session alone are answered as among others. -/
theorem answerAll_filter (hs : s.IsOrderly) (h : Store.Alike key s t)
    {qs : List (Request × Supply)} (hqs : ∀ q ∈ qs, q.1.OnConversations) :
  (answerAll s qs).1.filter (fun e => e.1.session? = some key)
      = (answerAll t (own key qs)).1
    ∧ Store.Alike key (answerAll s qs).2 (answerAll t (own key qs)).2
  := by
  induction qs generalizing s t with
  | nil => exact ⟨rfl, h⟩
  | cons q qs ih =>
      obtain ⟨r, supply⟩ := q
      have hr : r.OnConversations := hqs (r, supply) List.mem_cons_self
      have hrest : ∀ q ∈ qs, q.1.OnConversations := fun q hq => hqs q (List.mem_cons_of_mem _ hq)
      have hs' : (next (s.hand supply) r).IsOrderly := isOrderly_next (hs.hand supply) r
      rw [answerAll_cons]
      by_cases hkey : r.session? = some key
      · -- The request is made in both runs.
        obtain ⟨hresponse, htwins⟩ := answer_of_twins hr hkey (h.hand supply)
        obtain ⟨hexchanges, halike⟩ := ih hs' htwins.toAlike hrest
        rw [own, List.filter_cons_of_pos (by simpa using hkey),
          List.filter_cons_of_pos (by simpa using hkey), ← own, answerAll_cons, hexchanges, hresponse]
        exact ⟨rfl, halike⟩
      · -- It is made in the first run only.
        have halike : Store.Alike key (s.hand supply) t :=
          ⟨h.shelf, h.settings, h.opening, h.shallow, h.recalls⟩
        rw [own, List.filter_cons_of_neg (by simpa using hkey),
          List.filter_cons_of_neg (by simpa using hkey), ← own]
        exact ih hs' (alike_next hs.filed hr hkey halike) hrest

/-- Whatever requests about conversations are answered one after another, each with ids and time
stamps of its own: the requests of a session are answered as if they had been the only ones, and
the files of the session are the same then. -/
theorem sessions_apart (hs : s.IsOrderly) {qs : List (Request × Supply)}
    (hqs : ∀ q ∈ qs, q.1.OnConversations) (key : Text) :
  (answerAll s qs).1.filter (fun e => e.1.session? = some key) = (answerAll s (own key qs)).1
    ∧ Archive.shelf key (answerAll s qs).2.disk
      = Archive.shelf key (answerAll s (own key qs)).2.disk
  := by
  obtain ⟨hexchanges, halike⟩ := answerAll_filter hs hs.alike hqs
  exact ⟨hexchanges, halike.shelf⟩

/-- Two sessions in turn, each with a conversation of the same id. -/
def interleaved : List (Request × Supply) :=
  [(createRequest "player" "Hello", growingSupply), (createRequest "guest" "Hello", growingSupply),
    (startRequest "guest" "a", growingSupply), (startRequest "player" "a", growingSupply)]

/-- The player is answered as if there were no guest. -/
theorem sessions_apart_interleaved :
  (Store.new (.text Fragment.prologue) growingSupply).IsOrderly
    ∧ (∀ q ∈ interleaved, q.1.OnConversations)
    ∧ (own "player" interleaved).length = 2
    ∧ ∃ s : Store, s = Store.new (.text Fragment.prologue) growingSupply
      ∧ (answerAll s interleaved).1.filter (fun e => e.1.session? = some ("player" : Text))
        = (answerAll s (own "player" interleaved)).1
      ∧ Archive.shelf "player" (answerAll s interleaved).2.disk
        = Archive.shelf "player" (answerAll s (own "player" interleaved)).2.disk
  := by
  have hs : (Store.new (.text Fragment.prologue) growingSupply).IsOrderly := by
    apply Store.isOrderly_of_empty
    · intro p hp
      cases hp
    · intro p hp
      rw [List.mem_singleton.mp hp]
      decide
    · rfl
  have hqs : ∀ q ∈ interleaved, q.1.OnConversations := by
    have hall : interleaved.all (fun q => ("/api/conversations" : Text).isPrefixOf
        (Address.ofText q.1.address).path) = true := by
      decide +kernel
    intro q hq
    exact List.isPrefixOf_iff_prefix.mp (List.all_eq_true.mp hall q hq)
  have hown : (own "player" interleaved).length = 2 := by
    decide +kernel
  refine ⟨hs, hqs, hown, _, rfl, ?_⟩
  exact sessions_apart hs hqs "player"

end Http

end BranchingStory
