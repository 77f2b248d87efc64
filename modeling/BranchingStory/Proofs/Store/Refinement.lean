import BranchingStory.Proofs.Store.Actions
import BranchingStory.Proofs.Store.Filing

/-!
# The store of conversations is a catalog

Every call gives the same on a store that represents a catalog and on the catalog, and the store
represents the catalog afterwards: `Store.Refines.answer`.  So a new store and an empty catalog
give the same answers to all calls, `Store.answerEach_eq_catalog`, and what holds of catalogs holds
of every store that is reached: a call leaves what it does not touch, and one that fails leaves
everything.
-/

namespace BranchingStory

open Operation

/-! ### Calls of a store -/

/-- What a call does in a store. -/
def Call.action : Call → Store.Action Answer
  | create session prompt title => Answer.created <$> Store.create session prompt title
  | get session id => Answer.found <$> Store.find? session id
  | list session => Answer.listed <$> Store.all session
  | update session id r => Answer.found <$> Store.revise? session id r
  | delete session id => Answer.deleted <$> Store.delete session id
  | clear session => Answer.cleared <$> Store.clear session
  | context session id n => Answer.shown <$> Store.context session id n
  | exportAll session => Answer.exported <$> Store.exportText session

/-- Calls a store one call after another and goes on behind a fault: what each call gives. -/
def Store.answerEach : Store → List Call → List (Except Store.Fault Answer)
  | _, [] => []
  | s, c :: cs => (run c.action s).1 :: answerEach (run c.action s).2 cs

/-- A store behind calls. -/
def Store.after (s : Store) (calls : List Call) : Store :=
  calls.foldl (fun s call => (run call.action s).2) s

/-- A call that enters only stages of threads, one for every thread. -/
def Call.IsProper : Call → Prop
  | update _ _ r => ∀ p, r.progress = some p →
      ∃ es : Entries Stage, p = .ofStages es ∧ (es.map (·.1)).Nodup
  | _ => True

/-- A conversation can be read back when a step with stages was entered. -/
theorem Conversation.IsStorable.entered {c : Conversation} (h : c.IsStorable) {r : Revision}
    (hr : ∀ p, r.progress = some p →
      ∃ es : Entries Stage, p = .ofStages es ∧ (es.map (·.1)).Nodup) (now : Text) :
  (c.entered r now).IsStorable
  := by
  cases hp : r.progress with
  | none =>
      have hsame : (c.entered r now).progress = c.progress := by
        simp only [Conversation.entered, hp]
      rwa [IsStorable, hsame]
  | some p =>
      have hgiven : (c.entered r now).progress = p := by
        simp only [Conversation.entered, hp]
      rw [IsStorable, hgiven]
      exact hr p hp

/-! ### Texts that are no keys -/

namespace Catalog

/-- A session has a folder and is answered, or neither. -/
theorem inSession_cases (session : Text) :
  (Key.isKey session = true ∧ ∀ (k : Catalog) f, k.inSession session f = (.ok f.1, f.2))
    ∨ ∃ fault, Key.check Key.sessionRole session = .error fault
      ∧ Archive.folder session = .error fault
      ∧ ∀ (k : Catalog) f, k.inSession session f = (.error (.archive (.key fault)), k)
  := by
  by_cases hs : Key.isKey session = true
  · refine Or.inl ⟨hs, fun k f => ?_⟩
    simp only [inSession, Key.check, if_pos hs]
  · refine Or.inr ⟨⟨Key.sessionRole, session⟩, ?_, ?_, fun k f => ?_⟩
    · rw [Key.check, if_neg hs]
    · rw [Archive.folder, Key.check, if_neg hs]
      rfl
    · simp only [inSession, Key.check, if_neg hs]

/-- A conversation has a path and is answered, or neither. -/
theorem atKey_cases (session id : Text) :
  (Key.isKey session = true ∧ Key.isKey id = true
      ∧ ∀ (k : Catalog) f, k.atKey session id f = (.ok f.1, f.2))
    ∨ ∃ fault, Archive.path session id = .error fault
      ∧ ∀ (k : Catalog) f, k.atKey session id f = (.error (.archive (.key fault)), k)
  := by
  obtain ⟨hs, -⟩ | ⟨fault, hcheck, hfolder, -⟩ := inSession_cases session
  · by_cases hi : Key.isKey id = true
    · refine Or.inl ⟨hs, hi, fun k f => ?_⟩
      simp only [atKey, Key.check, if_pos hs, if_pos hi]
    · refine Or.inr ⟨⟨Key.conversationRole, id⟩, ?_, fun k f => ?_⟩
      · simp only [Archive.path, Archive.folder, Key.check, if_pos hs, if_neg hi]
        rfl
      · simp only [atKey, Key.check, if_pos hs, if_neg hi]
  · refine Or.inr ⟨fault, ?_, fun k f => ?_⟩
    · rw [Archive.path, hfolder]
      rfl
    · simp only [atKey, hcheck]

/-! ### Taking several conversations out -/

/-- What matters is which of its entries a catalog is left without. -/
theorem without_congr {k : Catalog} {p q : Text × Text → Bool}
    (h : ∀ e ∈ k.entries, p e.1 = q e.1) :
  k.without p = k.without q
  := by
  simp only [without, Catalog.mk.injEq, true_and]
  apply List.filter_congr
  intro e he
  rw [h e he]

/-- Nothing is missing when nothing that is there is taken out. -/
theorem without_eq_self {k : Catalog} {gone : Text × Text → Bool}
    (h : ∀ e ∈ k.entries, gone e.1 = false) :
  k.without gone = k
  := by
  have hentries : (k.entries.filter fun e => !gone e.1) = k.entries := by
    rw [List.filter_eq_self]
    intro e he
    rw [h e he]
    rfl
  simp only [without, hentries]

/-- What is taken out in two steps can be taken out at once. -/
theorem without_without (k : Catalog) (p q : Text × Text → Bool) :
  (k.without p).without q = k.without fun key => p key || q key
  := by
  simp only [without, List.filter_filter, Catalog.mk.injEq, true_and]
  apply List.filter_congr
  intro e _
  rw [Bool.not_or, Bool.and_comm]

end Catalog

/-! ### One call -/

namespace Store

/-- A store that represents a catalog whose conversations can be read back and ordered, as can
those that will be written. -/
structure Refines (s : Store) (k : Catalog) : Prop where
  represents : s.Represents k
  sound : k.IsSound
  serves : k.supply.Serves

variable {s : Store} {k : Catalog} {session id : Text}

/-- A new store refines the catalog without conversations. -/
theorem refines_new (opening : Opening) {supply : Supply} (h : supply.Serves) :
  (Store.new opening supply).Refines (.empty supply)
  := by
  refine ⟨⟨rfl, rfl, rfl, ⟨?_, ?_⟩, List.Perm.nil⟩, Catalog.isSound_empty supply, h⟩
  · intro p hp
    cases hp
  · intro p hp
    rw [List.mem_singleton.mp hp]
    decide

/-- Giving out stamps and ids keeps a store in step with its catalog. -/
theorem Refines.give (h : s.Refines k) (stamps ids : Nat) :
  Refines { s with stamps := s.stamps + stamps, ids := s.ids + ids } (k.give stamps ids)
  := ⟨h.represents.give stamps ids, h.sound.give stamps ids, h.serves⟩

/-- A conversation is written under the next stamp, to the front of the catalog. -/
theorem Refines.run_save (h : s.Refines k) {key : Text × Text} {c : Conversation}
    (hfiled : Catalog.IsFiled (key, c)) (hdate : c.updated = k.supply.stamp (k.stamps + 1))
    (ids : Nat) :
  ∃ s', run (save c) { s with stamps := s.stamps + 1, ids := s.ids + ids } = (.ok ⟨⟩, s')
    ∧ s'.Refines ((k.give 1 ids).put key c)
  := by
  obtain ⟨d, hd, hrepresents⟩ := (h.represents.give 1 ids).put hfiled
  refine ⟨_, ?_, hrepresents, h.sound.put h.serves hfiled hdate ids, h.serves⟩
  rw [save, run_bind_ok (run_get _), hd, run_bind_ok (run_settle _ _ _), run_set]

/-! ### Every call -/

/-- A store that answers a call as a catalog does, and stays one that refines it. -/
def Agrees (s : Store) (k : Catalog) (call : Call) : Prop :=
  ∃ s', run call.action s = ((k.answer call).1, s') ∧ s'.Refines (k.answer call).2

/-- What a call gives is told apart by its kind. -/
theorem run_map_eq {α : Type} {x : Action α} {outcome : Except Fault α} {s' : Store}
    (h : run x s = (outcome, s')) (f : α → Answer) :
  run (f <$> x) s = (outcome.map f, s')
  := by
  rw [run_map, h]

/-- A conversation is created in the store as in the catalog. -/
theorem Refines.create (h : s.Refines k) (session prompt : Text) (title : Option Text) :
  s.Agrees k (.create session prompt title)
  := by
  have hanswer : k.answer (.create session prompt title) = (k.give 1 1).inSession session _ := rfl
  rw [Agrees, hanswer]
  obtain ⟨hs, hkey⟩ | ⟨fault, hcheck, -, hkey⟩ := Catalog.inSession_cases session
  · have hcheck : Key.check Key.sessionRole session = .ok session := if_pos hs
    obtain ⟨c, hc⟩ : ∃ c, c = Conversation.new (k.supply.id (k.ids + 1))
        (if (title.getD []).isEmpty then Title.ofPrompt prompt else title.getD []) prompt session
        (k.supply.stamp (k.stamps + 1)) := ⟨_, rfl⟩
    have hfiled : Catalog.IsFiled ((session, k.supply.id (k.ids + 1)), c) := by
      rw [hc]
      exact ⟨rfl, rfl, hs, h.serves.keys _ (Nat.succ_pos _), ⟨[], rfl, List.nodup_nil⟩⟩
    obtain ⟨s', hsave, hrefines⟩ := h.run_save hfiled (by rw [hc]; rfl) 1
    have hnew : Conversation.new (s.supply.id (s.ids + 1))
        (if (title.getD []).isEmpty then Title.ofPrompt prompt else title.getD []) prompt session
        (s.supply.stamp (s.stamps + 1)) = c := by
      rw [hc, h.represents.supply, h.represents.ids, h.represents.stamps]
    have hrun : run (Store.create session prompt title) s = (.ok c, s') := by
      rw [Store.create, run_bind_ok (run_nextStamp s), run_bind_ok (run_nextId _), hcheck,
        run_bind_ok (run_settle _ _ _)]
      dsimp only
      rw [hnew, run_bind_ok hsave, run_pure]
    rw [hkey, ← hc]
    exact ⟨s', run_map_eq hrun _, hrefines⟩
  · have hrun : run (Store.create session prompt title) s
        = (.error (.archive (.key fault)), { s with stamps := s.stamps + 1, ids := s.ids + 1 }) := by
      rw [Store.create, run_bind_ok (run_nextStamp s), run_bind_ok (run_nextId _), hcheck]
      exact run_bind_error (run_settle _ _ _)
    rw [hkey]
    exact ⟨_, run_map_eq hrun _, h.give 1 1⟩

/-- Under keys the store finds what the catalog has; other texts are refused alike. -/
theorem Refines.run_find? (h : s.Refines k) (session id : Text) :
  ∃ found, run (find? session id) s = (found, s)
    ∧ ∀ f : Option Conversation → Answer,
      k.atKey session id (f (k.find? (session, id)), k) = (found.map f, k)
  := by
  refine ⟨_, run_find?_eq session id s, fun f => ?_⟩
  obtain ⟨hs, hi, hkey⟩ | ⟨fault, hpath, hkey⟩ := Catalog.atKey_cases session id
  · rw [hkey, h.represents.find? h.sound hs hi]
    rfl
  · rw [hkey, Archive.find?, hpath]
    rfl

/-- Under a key the store lists what the catalog has; other texts are refused alike. -/
theorem Refines.run_all (h : s.Refines k) (session : Text) :
  ∃ listed, run (all session) s = (listed, s)
    ∧ ∀ f : List Conversation → Answer,
      k.inSession session (f (k.ofSession session), k) = (listed.map f, k)
  := by
  refine ⟨_, run_all_eq session s, fun f => ?_⟩
  obtain ⟨hs, hkey⟩ | ⟨fault, -, hfolder, hkey⟩ := Catalog.inSession_cases session
  · rw [hkey, h.represents.all h.sound hs]
    rfl
  · rw [hkey, Archive.all, hfolder]
    rfl

/-- A conversation is found in the store as in the catalog. -/
theorem Refines.get (h : s.Refines k) (session id : Text) :
  s.Agrees k (.get session id)
  := by
  obtain ⟨found, hrun, hkey⟩ := h.run_find? session id
  rw [Agrees, Catalog.answer, hkey]
  exact ⟨s, run_map_eq hrun _, h⟩

/-- A session is listed from the store as from the catalog. -/
theorem Refines.list (h : s.Refines k) (session : Text) :
  s.Agrees k (.list session)
  := by
  obtain ⟨listed, hrun, hkey⟩ := h.run_all session
  rw [Agrees, Catalog.answer, hkey]
  exact ⟨s, run_map_eq hrun _, h⟩

/-- The last segments are shown from the store as from the catalog. -/
theorem Refines.context (h : s.Refines k) (session id : Text) (n : Int) :
  s.Agrees k (.context session id n)
  := by
  obtain ⟨found, hrun, hkey⟩ := h.run_find? session id
  have hlatest : (fun c : Conversation => c.lastSegments n) = (·.latest n) := by
    funext c
    apply Conversation.lastSegments_eq
  have hcontext : run (Store.context session id n) s
      = (found.map fun c => (c.map fun c => c.lastSegments n).getD [], s) :=
    run_bind_pure hrun _
  rw [hlatest] at hcontext
  rw [Agrees, Catalog.answer, hkey fun c => .shown ((c.map (·.latest n)).getD [])]
  refine ⟨s, ?_, h⟩
  rw [Call.action, run_map_eq hcontext]
  cases found <;> rfl

/-- A session is exported from the store as from the catalog. -/
theorem Refines.exportAll (h : s.Refines k) (session : Text) :
  s.Agrees k (.exportAll session)
  := by
  obtain ⟨listed, hrun, hkey⟩ := h.run_all session
  have hexport : run (exportText session) s
      = (listed.map fun cs => Json.write .indented (exportJson session cs), s) :=
    run_bind_pure hrun _
  rw [Agrees, Catalog.answer,
    hkey fun cs => .exported (Json.write .indented (exportJson session cs))]
  refine ⟨s, ?_, h⟩
  rw [Call.action, run_map_eq hexport]
  cases listed <;> rfl

/-- A step is entered into a conversation that is there, which comes to the front. -/
theorem Refines.update (h : s.Refines k) (session id : Text) {r : Revision}
    (hr : (Call.update session id r).IsProper) :
  s.Agrees k (.update session id r)
  := by
  rw [Agrees, Catalog.answer]
  obtain ⟨hs, hi, hkey⟩ | ⟨fault, hpath, hkey⟩ := Catalog.atKey_cases session id
  · have hfound : run (find? session id) s = (.ok (k.find? (session, id)), s) := by
      rw [run_find?_eq, h.represents.find? h.sound hs hi]
      rfl
    rw [hkey]
    cases hfind : k.find? (session, id) with
    | none =>
        rw [hfind] at hfound
        have hrun : run (revise? session id r) s = (.ok none, s) := by
          rw [revise?, run_bind_ok hfound, run_pure]
        exact ⟨s, run_map_eq hrun _, h⟩
    | some c =>
        rw [hfind] at hfound
        have hfiled := h.sound.filed _ (Entries.mem_of_get? hfind)
        have hentered : Catalog.IsFiled
            ((session, id), c.entered r (k.supply.stamp (k.stamps + 1))) :=
          ⟨hfiled.session, hfiled.id, hs, hi, hfiled.storable.entered hr _⟩
        obtain ⟨s', hsave, hrefines⟩ := h.run_save hentered rfl 0
        have hrevised : c.revise r (s.supply.stamp (s.stamps + 1))
            = c.entered r (k.supply.stamp (k.stamps + 1)) := by
          rw [Conversation.revise_eq, h.represents.supply, h.represents.stamps]
        have hrun : run (revise? session id r) s
            = (.ok (some (c.entered r (k.supply.stamp (k.stamps + 1)))), s') := by
          rw [revise?, run_bind_ok hfound]
          dsimp only
          rw [run_bind_ok (run_nextStamp s), hrevised]
          exact run_bind_ok hsave
        exact ⟨s', run_map_eq hrun _, hrefines⟩
  · have hfound : run (find? session id) s = (.error (.archive (.key fault)), s) := by
      rw [run_find?_eq, Archive.find?, hpath]
      rfl
    have hrun : run (revise? session id r) s = (.error (.archive (.key fault)), s) := by
      rw [revise?]
      exact run_bind_error hfound
    rw [hkey]
    exact ⟨s, run_map_eq hrun _, h⟩

/-- What is removed from a store is taken out of the catalog. -/
theorem Refines.run_delete (h : s.Refines k) (hs : Key.isKey session = true)
    (hi : Key.isKey id = true) :
  ∃ s', run (Store.delete session id) s = (.ok (k.find? (session, id)).isSome, s')
    ∧ s'.Refines (k.without (· == (session, id)))
  := by
  have hhere : s.disk.hasFile (Archive.place (session, id)) = (k.find? (session, id)).isSome := by
    rw [Disk.hasFile, h.represents.file?, Option.isSome_map]
  rw [run_delete_ok (Archive.path_eq_place hs hi), hhere]
  cases hfind : k.find? (session, id) with
  | none =>
      have hsame : k.without (· == (session, id)) = k := by
        apply Catalog.without_eq_self
        intro e he
        apply beq_eq_false_iff_ne.mpr
        intro hkey
        rw [← hkey, Catalog.find?, (Entries.get?_eq_some_iff k.distinct).mpr he] at hfind
        cases hfind
      rw [hsame]
      exact ⟨s, rfl, h⟩
  | some c => exact ⟨_, rfl, h.represents.remove _, h.sound.without _, h.serves⟩

/-- A conversation is deleted from the store as from the catalog. -/
theorem Refines.delete (h : s.Refines k) (session id : Text) :
  s.Agrees k (.delete session id)
  := by
  rw [Agrees, Catalog.answer]
  obtain ⟨hs, hi, hkey⟩ | ⟨fault, hpath, hkey⟩ := Catalog.atKey_cases session id
  · obtain ⟨s', hrun, hrefines⟩ := h.run_delete hs hi
    rw [hkey]
    exact ⟨s', run_map_eq hrun _, hrefines⟩
  · rw [hkey]
    exact ⟨s, run_map_eq (run_delete_error hpath s) _, h⟩

/-- Conversations that are in the catalog under their own ids are all removed and counted. -/
theorem Refines.run_deleteAll (hs : Key.isKey session = true) {cs : List Conversation}
    (hcs : (cs.map (·.id)).Nodup) (h : s.Refines k)
    (hhere : ∀ c ∈ cs, k.find? (session, c.id) = some c) :
  ∃ s', run (deleteAll session cs) s = (.ok cs.length, s')
    ∧ s'.Refines (k.without fun key => key.1 == session && (cs.map (·.id)).contains key.2)
  := by
  induction cs generalizing s k with
  | nil =>
      refine ⟨s, rfl, ?_⟩
      rwa [Catalog.without_eq_self]
      intro e _
      rw [List.map_nil, List.contains_nil, Bool.and_false]
  | cons c cs ih =>
      obtain ⟨hc, hcs⟩ := List.nodup_cons.mp hcs
      have hfind := hhere c List.mem_cons_self
      have hi : Key.isKey c.id = true :=
        (h.sound.filed _ (Entries.mem_of_get? hfind)).idKey
      obtain ⟨s₁, hdelete, h₁⟩ := h.run_delete hs hi
      rw [hfind] at hdelete
      have hrest : ∀ d ∈ cs, (k.without (· == (session, c.id))).find? (session, d.id) = some d := by
        intro d hd
        rw [Catalog.find?_without, if_neg]
        · exact hhere d (List.mem_cons_of_mem _ hd)
        · rw [beq_iff_eq, Prod.mk.injEq]
          rintro ⟨-, hid⟩
          exact hc (List.mem_map.mpr ⟨d, hd, hid⟩)
      obtain ⟨s₂, hall, h₂⟩ := ih hcs h₁ hrest
      refine ⟨s₂, ?_, ?_⟩
      · rw [deleteAll, run_bind_ok hdelete, run_bind_ok hall]
        rfl
      · rw [Catalog.without_without] at h₂
        have hgone : (fun key : Text × Text => key == (session, c.id)
              || key.1 == session && (cs.map (·.id)).contains key.2)
            = fun key => key.1 == session && ((c :: cs).map (·.id)).contains key.2 := by
          funext key
          rw [Bool.eq_iff_iff]
          simp [Prod.ext_iff, ← and_or_left]
        rwa [hgone] at h₂

/-- A session is cleared in the store as in the catalog. -/
theorem Refines.clear (h : s.Refines k) (session : Text) :
  s.Agrees k (.clear session)
  := by
  rw [Agrees, Catalog.answer]
  obtain ⟨hs, hkey⟩ | ⟨fault, -, hfolder, hkey⟩ := Catalog.inSession_cases session
  · have hall : run (Store.all session) s = (.ok (k.ofSession session), s) := by
      rw [run_all_eq, h.represents.all h.sound hs]
      rfl
    have hhere : ∀ c ∈ k.ofSession session, k.find? (session, c.id) = some c := by
      intro c hc
      obtain ⟨id, hfind⟩ := (k.mem_ofSession_iff c session).mp hc
      have hid := (h.sound.filed _ (Entries.mem_of_get? hfind)).id
      rwa [hid]
    obtain ⟨s', hdelete, hrefines⟩ :=
      h.run_deleteAll hs (h.sound.nodup_ids session) hhere
    have hrun : run (Store.clear session) s = (.ok (k.ofSession session).length, s') := by
      rw [Store.clear, run_bind_ok hall, hdelete]
    have hgone : (k.without fun key => key.1 == session
          && ((k.ofSession session).map (·.id)).contains key.2)
        = k.without (·.1 == session) := by
      apply Catalog.without_congr
      intro e he
      rw [Bool.and_eq_left_iff_imp]
      intro hsession
      rw [List.contains_iff_mem, ← (h.sound.filed e he).id]
      exact List.mem_map_of_mem (List.mem_map_of_mem (List.mem_filter.mpr ⟨he, hsession⟩))
    rw [hkey, ← hgone]
    exact ⟨s', run_map_eq hrun _, hrefines⟩
  · have hrun : run (Store.clear session) s = (.error (.archive (.key fault)), s) := by
      rw [Store.clear]
      apply run_bind_error
      rw [run_all_eq, Archive.all, hfolder]
      rfl
    rw [hkey]
    exact ⟨s, run_map_eq hrun _, h⟩

/-- Every call gives the same on a store and on the catalog that it refines. -/
theorem Refines.answer (h : s.Refines k) {call : Call} (hcall : call.IsProper) :
  s.Agrees k call
  := by
  cases call with
  | create session prompt title => exact h.create session prompt title
  | get session id => exact h.get session id
  | list session => exact h.list session
  | update session id r => exact h.update session id hcall
  | delete session id => exact h.delete session id
  | clear session => exact h.clear session
  | context session id n => exact h.context session id n
  | exportAll session => exact h.exportAll session

/-! ### What a call leaves -/

/-- Stores that refine catalogs with the same conversation under a key find the same there. -/
theorem Refines.find?_congr (h : s.Refines k) {s' : Store} {k' : Catalog} (h' : s'.Refines k')
    (hfind : k'.find? (session, id) = k.find? (session, id)) :
  (run (find? session id) s').1 = (run (find? session id) s).1
  := by
  rw [run_find?_eq, run_find?_eq]
  obtain ⟨hs, hi, -⟩ | ⟨fault, hpath, -⟩ := Catalog.atKey_cases session id
  · rw [h.represents.find? h.sound hs hi, h'.represents.find? h'.sound hs hi, hfind]
  · rw [Archive.find?, Archive.find?, hpath]
    rfl

/-- Stores that refine catalogs with the same conversations of a session list the same for it. -/
theorem Refines.all_congr (h : s.Refines k) {s' : Store} {k' : Catalog} (h' : s'.Refines k')
    (hsession : k'.ofSession session = k.ofSession session) :
  (run (all session) s').1 = (run (all session) s).1
  := by
  rw [run_all_eq, run_all_eq]
  obtain ⟨hs, -⟩ | ⟨fault, -, hfolder, -⟩ := Catalog.inSession_cases session
  · rw [h.represents.all h.sound hs, h'.represents.all h'.sound hs, hsession]
  · rw [Archive.all, Archive.all, hfolder]
    rfl

/-- A store that calls have made of a new one. -/
def IsReached (s : Store) : Prop :=
  ∃ opening supply calls, supply.Serves ∧ (∀ c ∈ calls, c.IsProper)
    ∧ s = (Store.new opening supply).after calls

/-- Behind any calls a store refines some catalog. -/
theorem Refines.exists_after (h : s.Refines k) {calls : List Call}
    (hcalls : ∀ c ∈ calls, c.IsProper) :
  ∃ k', (s.after calls).Refines k'
  := by
  induction calls generalizing s k with
  | nil => exact ⟨k, h⟩
  | cons c cs ih =>
      obtain ⟨s', hrun, hrefines⟩ := h.answer (hcalls c List.mem_cons_self)
      have hafter : s.after (c :: cs) = s'.after cs := by
        rw [after, List.foldl_cons, hrun]
        rfl
      rw [hafter]
      exact ih hrefines fun c hc => hcalls c (List.mem_cons_of_mem _ hc)

/-- Every store that is reached refines some catalog. -/
theorem IsReached.exists_refines (h : s.IsReached) :
  ∃ k, s.Refines k
  := by
  obtain ⟨opening, supply, calls, hsupply, hcalls, rfl⟩ := h
  exact (refines_new opening hsupply).exists_after hcalls

/-- A call leaves what is found under all keys that it does not touch. -/
theorem IsReached.find?_call (h : s.IsReached) {call : Call} (hcall : call.IsProper)
    (ht : ¬ call.touches (s.supply.id (s.ids + 1)) (session, id)) :
  (run (find? session id) (run call.action s).2).1 = (run (find? session id) s).1
  := by
  obtain ⟨k, hk⟩ := h.exists_refines
  obtain ⟨s', hrun, hs'⟩ := hk.answer hcall
  rw [hk.represents.supply, hk.represents.ids] at ht
  rw [hrun]
  exact hk.find?_congr hs' (Catalog.find?_answer ht)

/-- A call that fails leaves all conversations of all sessions, as they are and in their order. -/
theorem IsReached.all_of_error (h : s.IsReached) {call : Call} (hcall : call.IsProper)
    {fault : Fault} (hfault : (run call.action s).1 = .error fault) (session : Text) :
  (run (all session) (run call.action s).2).1 = (run (all session) s).1
  := by
  obtain ⟨k, hk⟩ := h.exists_refines
  obtain ⟨s', hrun, hs'⟩ := hk.answer hcall
  rw [hrun] at hfault ⊢
  apply hk.all_congr hs'
  rw [Catalog.ofSession, Catalog.entries_answer_of_error hfault]
  rfl

/-- What an update gives is found behind it. -/
theorem IsReached.find?_of_updated (h : s.IsReached) {r : Revision}
    (hr : (Call.update session id r).IsProper) {found : Option Conversation}
    (hfound : (run (revise? session id r) s).1 = .ok found) :
  (run (find? session id) (run (revise? session id r) s).2).1 = .ok found
  := by
  obtain ⟨k, hk⟩ := h.exists_refines
  obtain ⟨s', hrun, hs'⟩ := hk.update session id hr
  have hrevised : run (revise? session id r) s = (.ok found, (run (revise? session id r) s).2) :=
    Prod.ext hfound rfl
  rw [Call.action, run_map_eq hrevised] at hrun
  obtain ⟨hanswer, hstate⟩ := Prod.mk.inj hrun
  have hbehind := Catalog.find?_of_updated hanswer.symm
  rw [hstate, run_find?_eq]
  obtain ⟨hs, hi, -⟩ | ⟨fault, hpath, hkey⟩ := Catalog.atKey_cases session id
  · rw [hs'.represents.find? hs'.sound hs hi, hbehind]
    rfl
  · rw [Catalog.answer, hkey] at hanswer
    cases hanswer

/-! ### All calls -/

/-- All calls give the same on a store and on the catalog that it refines. -/
theorem Refines.answerEach (h : s.Refines k) {calls : List Call}
    (hcalls : ∀ c ∈ calls, c.IsProper) :
  s.answerEach calls = k.answerEach calls
  := by
  induction calls generalizing s k with
  | nil => rfl
  | cons c cs ih =>
      obtain ⟨s', hrun, hrefines⟩ := h.answer (hcalls c List.mem_cons_self)
      rw [Store.answerEach, Catalog.answerEach, hrun,
        ih hrefines fun c hc => hcalls c (List.mem_cons_of_mem _ hc)]

/-- All calls of a new store give what they give on an empty catalog. -/
theorem answerEach_eq_catalog (opening : Opening) {supply : Supply} (h : supply.Serves)
    {calls : List Call} (hcalls : ∀ c ∈ calls, c.IsProper) :
  (Store.new opening supply).answerEach calls = (Catalog.empty supply).answerEach calls
  := (refines_new opening h).answerEach hcalls

/-- Calls on two conversations of a session: one is continued, so that it comes to the front of
the other, then both are cleared; a text that is no key is asked for between them. -/
def callsOnTwo : List Call :=
  [.create "ann" "A lamp in the fog" none, .create "ann" "Tea" (some "Second"),
    .update "ann" "i" { segments := [⟨"Lumine", .happy, "Come in."⟩], choices := some [],
                        progress := some (.ofStages [("lumine", .first)]) },
    .list "ann", .context "ann" "i" 1, .get "ann" "../i", .clear "ann", .exportAll "ann"]

theorem answerEach_eq_catalog_two :
  Supply.strokes.Serves ∧ (∀ c ∈ callsOnTwo, c.IsProper)
    ∧ (Store.new .absent .strokes).answerEach callsOnTwo
      = (Catalog.empty .strokes).answerEach callsOnTwo
  := by
  have hproper : ∀ c ∈ callsOnTwo, c.IsProper := by
    simp only [callsOnTwo, List.forall_mem_cons, Call.IsProper, true_and]
    refine ⟨fun p hp => ⟨[("lumine", .first)], ?_, by decide⟩, nofun⟩
    exact (Option.some.inj hp).symm
  exact ⟨Supply.strokes_serves, hproper,
    answerEach_eq_catalog .absent Supply.strokes_serves hproper⟩

end Store

end BranchingStory
