import BranchingStory.Proofs.Http.History
import BranchingStory.Proofs.Store.Acts

/-!
# Failures

A request about conversations that is not answered with success leaves every file as it was,
whatever it asks for and whatever went wrong: the disk is written last, and what comes behind it
does not fail.
-/

namespace BranchingStory

open Operation

namespace Http

open Store (Acts Gives acts_of_reads acts_bind_of_reads)

/-! ### Answers that succeed -/

mutual

/-- A value stays fit for JSON when reserved names are left out. -/
theorem hasNonFinite_visible : (v : Json) → v.hasNonFinite = false →
  (visible v).hasNonFinite = false
  | .null, _ => by simp [visible, Json.hasNonFinite]
  | .bool _, _ => by simp [visible, Json.hasNonFinite]
  | .int _, _ => by simp [visible, Json.hasNonFinite]
  | .float _, hv => by simpa [visible] using hv
  | .str _, _ => by simp [visible, Json.hasNonFinite]
  | .arr vs, hv => by
      rw [Json.hasNonFinite] at hv
      rw [visible, Json.hasNonFinite]
      apply hasNonFiniteItem_visibleItems vs hv
  | .obj ms, hv => by
      rw [Json.hasNonFinite] at hv
      rw [visible, Json.hasNonFinite]
      apply hasNonFiniteMember_visibleMembers ms hv

/-- Taking reserved names out of items makes no number infinite. -/
theorem hasNonFiniteItem_visibleItems : (vs : List Json) → Json.hasNonFiniteItem vs = false →
  Json.hasNonFiniteItem (visibleItems vs) = false
  | [], _ => rfl
  | v :: vs, hv => by
      rw [Json.hasNonFiniteItem, Bool.or_eq_false_iff] at hv
      rw [visibleItems, Json.hasNonFiniteItem, hasNonFinite_visible v hv.1,
        hasNonFiniteItem_visibleItems vs hv.2, Bool.or_false]

/-- Taking reserved names out of members makes no number infinite. -/
theorem hasNonFiniteMember_visibleMembers : (ms : List (Str × Json)) →
    Json.hasNonFiniteMember ms = false →
  Json.hasNonFiniteMember (visibleMembers ms) = false
  | [], _ => rfl
  | (k, v) :: ms, hv => by
      rw [Json.hasNonFiniteMember, Bool.or_eq_false_iff] at hv
      rw [visibleMembers]
      split_ifs
      · apply hasNonFiniteMember_visibleMembers ms hv.2
      · rw [Json.hasNonFiniteMember, hasNonFinite_visible v hv.1,
          hasNonFiniteMember_visibleMembers ms hv.2, Bool.or_false]

end

mutual

/-- The strings of a value without reserved names are strings of the value. -/
theorem mem_strs_of_visible {t : Str} : (v : Json) → t ∈ (visible v).strs →
  t ∈ v.strs
  | .null, h => by simpa only [visible] using h
  | .bool _, h => by simpa only [visible] using h
  | .int _, h => by simpa only [visible] using h
  | .float _, h => by simpa only [visible] using h
  | .str _, h => by simpa only [visible] using h
  | .arr vs, h => by
      rw [visible, Json.strs] at h
      rw [Json.strs]
      apply mem_strsOfItems_of_visibleItems vs h
  | .obj ms, h => by
      rw [visible, Json.strs] at h
      rw [Json.strs]
      apply mem_strsOfMembers_of_visibleMembers ms h

/-- The strings of visible items are strings of the items. -/
theorem mem_strsOfItems_of_visibleItems {t : Str} : (vs : List Json) →
    t ∈ Json.strsOfItems (visibleItems vs) →
  t ∈ Json.strsOfItems vs
  | [], h => h
  | v :: vs, h => by
      rw [visibleItems, Json.strsOfItems, List.mem_append] at h
      rw [Json.strsOfItems, List.mem_append]
      exact h.imp (mem_strs_of_visible v) (mem_strsOfItems_of_visibleItems vs)

/-- The strings of visible members are strings of the members. -/
theorem mem_strsOfMembers_of_visibleMembers {t : Str} : (ms : List (Str × Json)) →
    t ∈ Json.strsOfMembers (visibleMembers ms) →
  t ∈ Json.strsOfMembers ms
  | [], h => h
  | (k, v) :: ms, h => by
      rw [visibleMembers] at h
      rw [Json.strsOfMembers, List.mem_append, List.mem_cons]
      split_ifs at h
      · exact .inr (mem_strsOfMembers_of_visibleMembers ms h)
      · rw [Json.strsOfMembers, List.mem_append, List.mem_cons] at h
        exact h.imp (Or.imp_right (mem_strs_of_visible v)) (mem_strsOfMembers_of_visibleMembers ms)

end

/-- A response that reports a success. -/
def Response.IsSuccess (response : Response) : Prop :=
  response.status = 200

/-- A value that is fit for JSON is shown with success. -/
theorem isSuccess_visible {v : Json} (h : v.hasNonFinite = false) (hs : v.hasHalf = false) :
  (Response.json 200 (visible v)).IsSuccess
  := by
  have hhalf : (visible v).hasHalf = false :=
    Json.hasHalf_eq_false.mpr fun t ht =>
      Json.hasHalf_eq_false.mp hs t (mem_strs_of_visible v ht)
  rw [Response.IsSuccess, Response.json, if_neg (by simp [hasNonFinite_visible v h]),
    if_neg (by simp [hhalf])]

/-- A conversation is always shown with success. -/
theorem isSuccess_conversation (c : Conversation) :
  (Response.json 200 (visible c.toJson)).IsSuccess
  := isSuccess_visible (Json.hasNonFinite_of_numberFree _ c.toJson_flat.numberFree)
      c.toJson_flat.hasHalf

/-! ### Endpoints that write -/

variable {α : Type} {s : Store} {r : Request} {a : Address} {session : Option Text} {id : Text}

/-- An operation acts on the store as part of a handler as it does by itself. -/
theorem acts_ofStore {P : α → Prop} {x : Store.Action α} (h : Acts session P s x) :
  Acts session P s (ofStore x)
  where
  touches := h.touches
  opening := h.opening
  recalls := h.recalls
  done := h.done.imp_right fun ⟨a, ha, hP⟩ => ⟨a, by rw [run_ofStore, ha]; rfl, hP⟩

/-- The session that a request names: the body names the one of a conversation that is created,
and otherwise the query does. -/
def sessionOf (r : Request) (a : Address) : Endpoint → Option Text
  | .create => (checkedBody r CreationBody.check).toOption.bind (·.session.text?)
  | _ => a.field? sessionField

/-- Creating a conversation acts for the session that the body names. -/
theorem acts_serveCreate (r : Request) (a : Address) (s : Store) :
  Acts (sessionOf r a .create) Response.IsSuccess s (serveCreate r)
  := by
  apply acts_bind_of_reads (reads_ofRequest _)
  intro b hb
  rw [run_ofRequest] at hb
  have hbody : checkedBody r CreationBody.check = .ok b := congrArg Prod.fst hb
  apply acts_bind_of_reads (reads_refuseIf _ _ _)
  intro _ _
  apply acts_bind_of_reads (reads_strKey _)
  intro key hkey
  have hsession : sessionOf r a .create = some key := by
    rw [sessionOf, hbody]
    exact text?_of_strKey hkey
  rw [hsession]
  refine (acts_ofStore (P := Gives) ?_).answer fun c _ => isSuccess_conversation c
  cases b.texts? with
  | none => exact Store.acts_createBroken (some key) key s
  | some texts => exact Store.acts_create texts.1 texts.2 s

/-- Clearing acts for the session that the query names. -/
theorem acts_serveClear (h : Archive.IsFiled s.disk) (a : Address) :
  Acts (a.field? sessionField) Response.IsSuccess s (serveClear a)
  := by
  apply acts_bind_of_reads (reads_sessionKey _)
  intro key hkey
  rw [eq_of_sessionKey hkey]
  refine (acts_ofStore (Store.acts_clear h)).answer fun n _ => isSuccess_visible ?_ ?_
  · simp [Json.hasNonFinite, Json.hasNonFiniteMember]
  · simp [Json.hasHalf, Json.strs, Json.strsOfMembers]

/-- Revising a conversation acts for the session that the query names. -/
theorem acts_serveRevise (h : Archive.IsFiled s.disk) (r : Request) (a : Address) (id : Text) :
  Acts (a.field? sessionField) Response.IsSuccess s (serveRevise r a id)
  := by
  apply acts_bind_of_reads (reads_ofRequest _)
  intro b _
  apply acts_bind_of_reads (reads_load a id)
  intro loaded hload
  rw [(find?_of_load hload).1]
  refine (acts_ofStore (P := Gives) ?_).answer fun found _ => ?_
  · cases b with
    | none => apply Store.acts_reviseBroken?
    | some b => exact Store.acts_revise? h fun c _ => suits_revision b c
  · cases found with
    | none => exact isSuccess_visible rfl rfl
    | some c => exact isSuccess_conversation c

/-- Deleting a conversation acts for the session that the query names. -/
theorem acts_serveDelete (a : Address) (id : Text) (s : Store) :
  Acts (a.field? sessionField) Response.IsSuccess s (serveDelete a id)
  := by
  apply acts_bind_of_reads (reads_load a id)
  intro loaded hload
  obtain ⟨hsession, hfind⟩ := find?_of_load hload
  obtain ⟨p, hp, -⟩ := Archive.find?_eq_some.mp hfind
  obtain ⟨hkey, hid, -⟩ := Archive.path_eq_ok_iff.mp hp
  rw [hsession]
  refine (acts_ofStore (Store.acts_delete hkey hid s)).answer fun _ _ => isSuccess_visible ?_ ?_
  · simp [Json.hasNonFinite, Json.hasNonFiniteMember]
  · simp [Json.hasHalf, Json.strs, Json.strsOfMembers]

/-- Starting a conversation acts for the session that the query names. -/
theorem acts_serveStart (h : Archive.IsFiled s.disk) (a : Address) (id : Text) :
  Acts (a.field? sessionField) Response.IsSuccess s (serveStart a id)
  := by
  apply acts_bind_of_reads (reads_load a id)
  intro loaded hload
  rw [(find?_of_load hload).1]
  apply acts_bind_of_reads (reads_refuseIf _ _ _)
  intro _ _
  apply acts_bind_of_reads (reads_resume _)
  intro session _
  obtain ⟨hopening, hdisk⟩ := @Store.acts_openingText (some loaded.1) s
  apply (acts_ofStore hopening).bind hdisk
  intro opening s' hs'
  obtain rfl : s' = (run Store.openingText s).2 := (congrArg Prod.snd hs').symm
  apply acts_bind_of_reads (reads_played _)
  intro step _
  rw [← hdisk] at h
  exact (acts_ofStore (Store.acts_revise? h fun c _ => .still rfl rfl rfl)).answer
    fun _ _ => status_turn step.1

theorem acts_serveChoose (h : Archive.IsFiled s.disk) (r : Request) (a : Address) (id : Text) :
  Acts (a.field? sessionField) Response.IsSuccess s (serveChoose r a id)
  := by
  apply acts_bind_of_reads (reads_ofRequest _)
  intro choice _
  apply acts_bind_of_reads (reads_load a id)
  rintro ⟨key, c⟩ hload
  obtain ⟨hsession, hfind⟩ := find?_of_load hload
  rw [hsession]
  dsimp only
  apply acts_bind_of_reads (reads_refuseIf _ _ _)
  intro _ _
  apply acts_bind_of_reads (reads_refuseIf _ _ _)
  intro _ hfinished
  apply acts_bind_of_reads (reads_refuseIf _ _ _)
  intro _ _
  cases c.choices.reverse.find? (.text ·.id == choice) with
  | none => apply acts_of_reads (reads_throw _)
  | some offered =>
      dsimp only
      apply acts_bind_of_reads (reads_refuseIf _ _ _)
      intro _ _
      apply acts_bind_of_reads (reads_resume c)
      intro session hresume
      apply acts_bind_of_reads (reads_played _)
      rintro ⟨turn, q⟩ hstep
      have hsuits : ∀ d, Archive.find? s.disk key id = .ok (some d) →
          d.Suits (choiceRevision offered.id turn q) := by
        intro d hd
        rw [hfind] at hd
        obtain rfl : c = d := Option.some.inj (Except.ok.inj hd)
        exact suits_choice (of_refuseIf hfinished) hresume hstep
      exact (acts_ofStore (Store.acts_revise? h hsuits)).answer fun _ _ => status_turn turn

theorem acts_serveOpening (s : Store) :
  Acts session Response.IsSuccess s serveOpening
  := by
  obtain hsame | hread := run_serveOpening_snd s
  · apply Store.acts_of_disk
    · rw [hsame]
    · rw [hsame]
    · rw [hsame]
  · obtain ⟨hopening, hdisk⟩ := Store.acts_openingText s
    exact hopening.of_snd_eq hdisk hread

/-! ### All requests -/

/-- Every endpoint but the one that changes the settings touches the session that is named, and
writes only when it succeeds. -/
theorem acts_serve (h : Archive.IsFiled s.disk) (r : Request) (a : Address) {e : Endpoint}
    (he : e ≠ .changeSettings) :
  Acts (sessionOf r a e) Response.IsSuccess s (serve r a e)
  := by
  cases e with
  | health => exact acts_of_reads (reads_shown _) s
  | settings =>
      exact acts_of_reads ((reads_ofStore Store.reads_settings).bind fun _ => reads_shown _) s
  | changeSettings => exact absurd rfl he
  | opening => apply acts_serveOpening
  | story => exact acts_of_reads (reads_serveStory r) s
  | route => exact acts_of_reads ((reads_routeOf r).bind fun _ => reads_pure _) s
  | conversations => exact acts_of_reads (reads_serveConversations a) s
  | create => apply acts_serveCreate
  | clear => exact acts_serveClear h a
  | exportAll => exact acts_of_reads (reads_serveExport a) s
  | conversation id => exact acts_of_reads ((reads_load a id).bind fun _ => reads_shown _) s
  | revise id => exact acts_serveRevise h r a id
  | delete id => apply acts_serveDelete
  | context id => exact acts_of_reads (reads_serveContext a id) s
  | start id => exact acts_serveStart h a id
  | choose id => exact acts_serveChoose h r a id

/-- The session that a request names, if it names one. -/
def Request.session? (r : Request) : Option Text :=
  let a := Address.ofText r.address
  match Endpoint.lookup r.method a.path with
  | .found e => sessionOf r a e
  | _ => a.field? sessionField

/-- A request that does not ask to change the settings touches the session that it names, and
writes only when it succeeds. -/
theorem acts_handle (h : Archive.IsFiled s.disk) (hr : ¬ r.ChangesSettings) :
  Acts r.session? Response.IsSuccess s (handle r (Address.ofText r.address))
  := by
  rw [handle, Request.session?]
  cases hl : Endpoint.lookup r.method (Address.ofText r.address).path with
  | found e =>
      apply acts_serve h
      rintro rfl
      exact hr hl
  | otherMethod => exact acts_of_reads (reads_throw _) s
  | trailingSlash => exact acts_of_reads (reads_pure _) s
  | missing => exact acts_of_reads (reads_throw _) s

/-- Whatever requests a service has answered that started without files, and whatever has become
of the opening since: a request about conversations that is not answered with success leaves
every file as it was. -/
theorem failure_keeps_files {opening : Opening} {supply : Supply} {rs : List Request}
    (hdisk : s.disk = (after (Store.new opening supply) rs).disk) (hr : r.OnConversations)
    (hstatus : statusOf s r ≠ 200) :
  (next s r).disk.files = s.disk.files
  := by
  have hnew : (Store.new opening supply).IsTidy := by
    intro p hp
    cases hp
  have hfiled : Archive.IsFiled s.disk := by
    rw [hdisk]
    exact (isTidy_after hnew rs).1.isFiled
  obtain hsame | ⟨response, hresponse, hsuccess⟩ := (acts_handle hfiled hr.not_changesSettings).done
  · rw [next_eq, hsame]
  · exfalso
    apply hstatus
    rw [statusOf, answer_run]
    cases hrun : run (handle r (Address.ofText r.address)) s with
    | mk outcome s' =>
        rw [hrun] at hresponse
        dsimp only at hresponse
        rw [hresponse]
        exact hsuccess

/-- The store with a conversation that was created, behind an opening that is no text. -/
def unreadableStore : Store where
  disk := (after (Store.new (.text Fragment.prologue) growingSupply)
    [createRequest "player" "Hello"]).disk
  opening := .notText
  remembered := none
  supply := growingSupply
  stamps := 1
  ids := 1

/-- The conversation cannot be started, and stays as it was. -/
theorem failure_keeps_files_unreadable :
  unreadableStore.disk
      = (after (Store.new (.text Fragment.prologue) growingSupply)
        [createRequest "player" "Hello"]).disk
    ∧ (startRequest "player" "a").OnConversations
    ∧ unreadableStore.disk.files.length = 1
    ∧ statusOf unreadableStore (startRequest "player" "a") = 500
    ∧ (next unreadableStore (startRequest "player" "a")).disk.files
      = unreadableStore.disk.files
  := by
  have hdisk : unreadableStore.disk
      = (after (Store.new (.text Fragment.prologue) growingSupply)
        [createRequest "player" "Hello"]).disk := by
    rw [unreadableStore]
  have hr : (startRequest "player" "a").OnConversations := by
    rw [Request.OnConversations, ← List.isPrefixOf_iff_prefix]
    decide +kernel
  have hstatus : statusOf unreadableStore (startRequest "player" "a") = 500 := by
    decide +kernel
  have hfailed : statusOf unreadableStore (startRequest "player" "a") ≠ 200 := by
    rw [hstatus]
    decide
  exact ⟨hdisk, hr, by decide +kernel, hstatus, failure_keeps_files hdisk hr hfailed⟩

end Http

end BranchingStory
