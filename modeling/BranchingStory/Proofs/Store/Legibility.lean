import BranchingStory.Proofs.Narrative.Routing
import BranchingStory.Proofs.Store.Effect
import BranchingStory.Proofs.Store.Refinement

/-!
# Labels that are no stages

A caller may enter labels that name no stages.  They are stored as they are, and what is stored
then is not read any more.  So a call fails exactly when it reads a conversation that is kept with
such a label: `Store.reading_after`.
-/

namespace BranchingStory

open Operation

/-! ### Conversations that are read back -/

/-- Where all members pass their checks, the value of each of them does. -/
theorem Checked.exists_of_members {α κ : Type} {checkName : Str → Checked κ}
    {check : Json → Checked α} {ms : List (Str × Json)} {es : List (κ × α)}
    (h : members checkName check ms = .ok es) {m : Str × Json} (hm : m ∈ ms) :
  ∃ a, check m.2 = .ok a
  := by
  induction ms generalizing es with
  | nil => cases hm
  | cons n ms ih =>
      obtain ⟨k, v⟩ := n
      rw [members] at h
      cases hv : check v with
      | error issues =>
          rw [hv] at h
          cases hk : checkName k <;> cases hrest : members checkName check ms
            <;> rw [hk, hrest] at h <;> cases h
      | ok a =>
          cases hrest : members checkName check ms with
          | error issues =>
              rw [hv, hrest] at h
              cases hk : checkName k <;> rw [hk] at h <;> cases h
          | ok rest =>
              obtain rfl | hm := List.mem_cons.mp hm
              · exact ⟨a, hv⟩
              · exact ih hrest hm

namespace Conversation

variable {c : Conversation}

/-- A conversation whose labels all name stages. -/
def HasStages (c : Conversation) : Prop :=
  ∀ e ∈ c.progress, (Stage.ofLabel? e.2).isSome = true

instance (c : Conversation) : Decidable c.HasStages :=
  inferInstanceAs (Decidable (∀ e ∈ c.progress, _))

/-- A conversation whose labels all name stages can be read back. -/
theorem HasStages.isStorable (h : c.HasStages) (hn : (c.progress.map (·.1)).Nodup) :
  c.IsStorable
  := by
  have hstages : Progress.ofStages c.progress.stages = c.progress := by
    rw [Progress.ofStages_stages]
    exact List.filter_eq_self.mpr h
  refine ⟨c.progress.stages, hstages.symm, ?_⟩
  rwa [← Entries.keys_mapValues Stage.label, ← Progress.ofStages, hstages]

/-- Labels that pass their check name stages. -/
theorem hasStages_of_checkProgress {p : Progress} (h : checkProgress c.progress.toJson = .ok p) :
  c.HasStages
  := by
  intro e he
  have hform : (Str.text e.1, Json.text e.2)
      ∈ c.progress.map fun e => (Str.text e.1, Json.text e.2) :=
    List.mem_map.mpr ⟨e, he, rfl⟩
  rw [checkProgress, Progress.toJson, Json.checkMap] at h
  cases hm : Checked.members Json.textOf Stage.check
      (c.progress.map fun e => (Str.text e.1, Json.text e.2)) with
  | error issues =>
      rw [hm] at h
      cases h
  | ok es =>
      obtain ⟨s, hs⟩ := Checked.exists_of_members hm hform
      cases hl : Stage.ofLabel? e.2 with
      | none =>
          rw [Stage.check, Json.checkLabel, hl] at hs
          cases hs
      | some s => rfl

/-- A conversation whose form passes its check has stages. -/
theorem hasStages_of_check {other : IssueKind} {c' : Conversation}
    (h : check other c.toJson = .ok c') :
  c.HasStages
  := by
  have hmember : c.toJson.member? "character_progress" = some c.progress.toJson := rfl
  rw [toJson, check, ← toJson] at h
  obtain ⟨_, finished, h₁, -, -⟩ := Checked.ap_eq_ok h
  obtain ⟨_, progress, -, hprogress, -⟩ := Checked.ap_eq_ok h₁
  rw [hmember] at hprogress
  exact hasStages_of_checkProgress (Checked.under_eq_ok_iff.mp hprogress)

/-- A conversation with one label for every thread is read back from its text, unless a label names
no stage. -/
theorem read_write_cases (hn : (c.progress.map (·.1)).Nodup) :
  c.HasStages ∧ (Record.read (Record.write .indented c) : Checked Conversation) = .ok c
    ∨ ¬ c.HasStages
      ∧ ∃ issues, (Record.read (Record.write .indented c) : Checked Conversation) = .error issues
  := by
  by_cases hc : c.HasStages
  · exact Or.inl ⟨hc, read_write (hc.isStorable hn)⟩
  · refine Or.inr ⟨hc, ?_⟩
    rw [Record.read_write_eq_check Json.Layout.indented_isGapped (c.toJson_flat.mono (by decide))]
    cases hcheck : (Record.check .notRecord (Record.toJson c) : Checked Conversation) with
    | error issues => exact ⟨issues, rfl⟩
    | ok c' => exact absurd (hasStages_of_check hcheck) hc

end Conversation

/-! ### Conversations that are kept -/

/-- Conversations under the keys of their sessions and their own. -/
abbrev Kept := List ((Text × Text) × Conversation)

/-- What is kept behind a call, by what the call gave. -/
def Call.keep (kept : Kept) : Call → Except Store.Fault Answer → Kept
  | create session _ _, .ok (.created c) => Entries.put (session, c.id) c kept
  | update session id _, .ok (.found (some c)) => Entries.put (session, id) c kept
  | delete session id, .ok _ => Entries.erase (session, id) kept
  | clear session, .ok _ => kept.filter fun e => e.1.1 ≠ session
  | _, _ => kept

/-- A call that enters at most one label for every thread. -/
def Call.IsSingle : Call → Prop
  | update _ _ r => ∀ p, r.progress = some p → (p.map (·.1)).Nodup
  | _ => True

/-- A conversation that is kept under its own key, with one label for every thread. -/
structure Kept.Places (key : Text × Text) (c : Conversation) : Prop where
  session : c.session = key.1
  id : c.id = key.2
  sessionKey : Key.isKey key.1 = true
  idKey : Key.isKey key.2 = true
  single : (c.progress.map (·.1)).Nodup

namespace Archive

/-- A disk with the files of the conversations that are kept, and no others. -/
structure HoldsAll (d : Disk) (kept : Kept) : Prop where
  shallow : d.IsShallow
  files : d.files = kept.map Catalog.file
  distinct : (kept.map (·.1)).Nodup
  places : ∀ e ∈ kept, Kept.Places e.1 e.2

variable {d : Disk} {kept : Kept} {session id : Text} {c : Conversation}

/-- In the place of a key stands the file of what is kept under it. -/
theorem HoldsAll.file? (h : HoldsAll d kept) (key : Text × Text) :
  d.file? (place key) = (Entries.get? kept key).map (Record.write .indented)
  := by
  rw [Disk.file?, h.files, Catalog.get?_map_file]

/-- The file of a conversation that is kept is read as the conversation, unless a label names no
stage. -/
theorem HoldsAll.readAt (h : HoldsAll d kept) {key : Text × Text}
    (hc : Entries.get? kept key = some c) :
  c.HasStages ∧ Archive.readAt d (place key) = .ok c
    ∨ ¬ c.HasStages ∧ ∃ issues, Archive.readAt d (place key) = .error (.record issues)
  := by
  have hread : d.read (place key) = .ok (Record.write .indented c) := by
    have hu : Text.unifyNewlines (Record.write .indented c) = Record.write .indented c :=
      Json.unifyNewlines_write Json.Layout.indented_isGapped c.toJson_flat.numberFree
    have hfile := h.file? key
    rw [hc] at hfile
    simp only [Disk.read, hfile, Option.map_some, hu]
  obtain ⟨hs, hr⟩ | ⟨hs, issues, hr⟩ :=
    Conversation.read_write_cases (h.places _ (Entries.mem_of_get? hc)).single
  · refine Or.inl ⟨hs, ?_⟩
    rw [Archive.readAt, hread]
    simp only [Except.mapError, bind, Except.bind, hr]
  · refine Or.inr ⟨hs, issues, ?_⟩
    rw [Archive.readAt, hread]
    simp only [Except.mapError, bind, Except.bind, hr]

/-- What is found is what is kept, unless a label names no stage. -/
theorem HoldsAll.find? (h : HoldsAll d kept) (hs : Key.isKey session = true)
    (hi : Key.isKey id = true) :
  Archive.find? d session id = .ok none ∧ Entries.get? kept (session, id) = none
    ∨ ∃ c, Entries.get? kept (session, id) = some c
      ∧ (c.HasStages ∧ Archive.find? d session id = .ok (some c)
        ∨ ¬ c.HasStages ∧ ∃ issues, Archive.find? d session id = .error (.record issues))
  := by
  have hfile := h.file? (session, id)
  have hfind : Archive.find? d session id
      = if d.hasFile (place (session, id)) then (Archive.readAt d (place (session, id))).map some
        else .ok none := by
    rw [Archive.find?, path_eq_place hs hi]
    rfl
  cases hc : Entries.get? kept (session, id) with
  | none =>
      rw [hc] at hfile
      rw [hfind, if_neg (by simp [Disk.hasFile, hfile])]
      exact Or.inl ⟨rfl, rfl⟩
  | some c =>
      rw [hc] at hfile
      rw [hfind, if_pos (by simp [Disk.hasFile, hfile])]
      refine Or.inr ⟨c, rfl, ?_⟩
      obtain ⟨hstages, hr⟩ | ⟨hstages, issues, hr⟩ := h.readAt hc
      · rw [hr]
        exact Or.inl ⟨hstages, rfl⟩
      · rw [hr]
        exact Or.inr ⟨hstages, issues, rfl⟩

/-- The files of a session are those of what is kept of it. -/
theorem HoldsAll.mem_filesIn (h : HoldsAll d kept) {p : Path} :
  p ∈ filesIn d (root ++ [session]) ↔ ∃ e ∈ kept, e.1.1 = session ∧ place e.1 = p
  := by
  rw [(Catalog.filesIn_perm h.shallow (List.Perm.of_eq h.files) session).mem_iff]
  simp [and_assoc]

/-- What is listed of a session is what is kept of it, unless a label there names no stage. -/
theorem HoldsAll.all (h : HoldsAll d kept) (hs : Key.isKey session = true) :
  (∀ e ∈ kept, e.1.1 = session → e.2.HasStages)
      ∧ (∃ cs, Archive.all d session = .ok cs ∧ ∀ c, c ∈ cs ↔ ∃ e ∈ kept, e.1.1 = session ∧ e.2 = c)
    ∨ ¬ (∀ e ∈ kept, e.1.1 = session → e.2.HasStages)
      ∧ ∃ issues, Archive.all d session = .error (.record issues)
  := by
  have hfolder : folder session = .ok (root ++ [session]) := by
    rw [folder, Key.check, if_pos hs]
    rfl
  have hget {e : (Text × Text) × Conversation} (he : e ∈ kept) :
      Entries.get? kept e.1 = some e.2 := (Entries.get?_eq_some_iff h.distinct).mpr he
  have hall : Archive.all d session
      = ((filesIn d (root ++ [session])).mapM (Archive.readAt d)).map
          fun cs => cs.mergeSort fun a b => Text.isAtMost b.updated a.updated := by
    rw [Archive.all, hfolder]
    rfl
  cases hread : (filesIn d (root ++ [session])).mapM (Archive.readAt d) with
  | error f =>
      obtain ⟨p, hp, hf⟩ := exists_of_mapM_error hread
      obtain ⟨e, he, hsession, rfl⟩ := h.mem_filesIn.mp hp
      obtain ⟨-, hr⟩ | ⟨hstages, issues, hr⟩ := h.readAt (hget he)
      · rw [hr] at hf
        cases hf
      · obtain rfl : .record issues = f := Except.error.inj (hr.symm.trans hf)
        refine Or.inr ⟨fun hlegible => hstages (hlegible e he hsession), issues, ?_⟩
        rw [hall, hread]
        rfl
  | ok cs =>
      have hmem : ∀ e ∈ kept, e.1.1 = session → e.2.HasStages ∧ e.2 ∈ cs := by
        intro e he hsession
        obtain ⟨c, hc, hread⟩ :=
          exists_of_mapM hread (h.mem_filesIn.mpr ⟨e, he, hsession, rfl⟩)
        obtain ⟨hstages, hr⟩ | ⟨-, issues, hr⟩ := h.readAt (hget he)
        · obtain rfl : e.2 = c := Except.ok.inj (hr.symm.trans hread)
          exact ⟨hstages, hc⟩
        · rw [hr] at hread
          cases hread
      refine Or.inl ⟨fun e he hsession => (hmem e he hsession).1, _, by rw [hall, hread]; rfl, ?_⟩
      intro c
      rw [List.mem_mergeSort]
      constructor
      · intro hc
        obtain ⟨p, hp, hr⟩ := mem_of_mapM hread hc
        obtain ⟨e, he, hsession, rfl⟩ := h.mem_filesIn.mp hp
        obtain ⟨-, hr'⟩ | ⟨-, issues, hr'⟩ := h.readAt (hget he)
        · exact ⟨e, he, hsession, Except.ok.inj (hr'.symm.trans hr)⟩
        · rw [hr'] at hr
          cases hr
      · rintro ⟨e, he, hsession, rfl⟩
        exact (hmem e he hsession).2

/-! ### Writing and removing -/

/-- A new store keeps nothing. -/
theorem holdsAll_new (opening : Opening) (supply : Supply) :
  HoldsAll (Store.new opening supply).disk []
  := by
  refine ⟨⟨nofun, ?_⟩, rfl, List.nodup_nil, nofun⟩
  intro p hp
  rw [List.mem_singleton.mp hp]
  decide

/-- A conversation that is stored is kept in the place of the one under its key. -/
theorem HoldsAll.save (h : HoldsAll d kept) {key : Text × Text} (hc : Kept.Places key c) :
  ∃ e, save d c = .ok e ∧ HoldsAll e (Entries.put key c kept)
  := by
  have hpath : path c.session c.id = .ok (place key) := by
    rw [hc.session, hc.id]
    exact path_eq_place hc.sessionKey hc.idKey
  obtain ⟨e, he, hfiles, hshallow⟩ := h.shallow.exists_store hpath (Record.write .indented c)
  have hsave : Archive.save d c = .ok e := by
    rw [save_of_path hpath, he]
    rfl
  refine ⟨e, hsave, hshallow, ?_, Entries.nodup_put h.distinct _ _, ?_⟩
  · rw [hfiles, h.files, Catalog.put_map_file]
  · intro e he
    obtain rfl | he := Entries.mem_put he
    · exact hc
    · exact h.places e he

/-- A conversation whose file is removed is not kept. -/
theorem HoldsAll.remove (h : HoldsAll d kept) (key : Text × Text) :
  HoldsAll (d.remove (place key)) (Entries.erase key kept)
  := by
  refine ⟨h.shallow.remove _, ?_, h.distinct.sublist (List.filter_sublist.map _),
    fun e he => h.places e (List.mem_of_mem_filter he)⟩
  have herase : Entries.erase key kept = kept.filter fun e => !(e.1 == key) := by
    apply List.filter_congr
    intro e _
    rw [Bool.eq_iff_iff]
    simp
  rw [Disk.remove, h.files, Catalog.erase_map_file, herase]

end Archive

/-! ### What calls keep -/

namespace Store

open Archive (HoldsAll)

variable {s : Store} {kept : Kept} {session id : Text}

/-- A call after which a disk keeps what the call says. -/
def KeepsUp (s : Store) (kept : Kept) (call : Call) : Prop :=
  HoldsAll (run call.action s).2.disk (call.keep kept (run call.action s).1)

/-- A conversation that was stored in a place is kept there. -/
theorem run_save_of_holdsAll (h : HoldsAll s.disk kept) {key : Text × Text} {c : Conversation}
    (hc : Kept.Places key c) :
  ∃ e, run (save c) s = (.ok ⟨⟩, { s with disk := e }) ∧ HoldsAll e (Entries.put key c kept)
  := by
  obtain ⟨e, he, hkeeps⟩ := h.save hc
  refine ⟨e, ?_, hkeeps⟩
  rw [save, run_bind_ok (run_get s), he, run_bind_ok (run_settle _ _ _), run_set]

theorem keepsUp_of_error {call : Call} {f : Fault} {s' : Store} (h : HoldsAll s.disk kept)
    (hrun : run call.action s = (.error f, s')) (hdisk : s'.disk = s.disk) :
  s.KeepsUp kept call
  := by
  have hkeep : call.keep kept (.error f) = kept := by cases call <;> rfl
  rw [KeepsUp, hrun, hkeep, hdisk]
  exact h

/-- Behind a creation a disk has the file of what was created. -/
theorem keepsUp_create (h : HoldsAll s.disk kept) (session prompt : Text) (title : Option Text) :
  s.KeepsUp kept (.create session prompt title)
  := by
  obtain ⟨c, hc⟩ : ∃ c, c = Conversation.new (s.supply.id (s.ids + 1))
      (if (title.getD []).isEmpty then Title.ofPrompt prompt else title.getD []) prompt session
      (s.supply.stamp (s.stamps + 1)) := ⟨_, rfl⟩
  obtain ⟨given, hgiven⟩ :
      ∃ given : Store, given = { s with stamps := s.stamps + 1, ids := s.ids + 1 } := ⟨_, rfl⟩
  have hdisk : given.disk = s.disk := by rw [hgiven]
  obtain ⟨hs, -⟩ | ⟨fault, hcheck, -, -⟩ := Catalog.inSession_cases session
  · have hcheck : Key.check Key.sessionRole session = .ok session := if_pos hs
    have hrun : run (create session prompt title) s = run (do save c; return c) given := by
      rw [create, run_bind_ok (run_nextStamp s), run_bind_ok (run_nextId _), hcheck,
        run_bind_ok (run_settle _ _ _), hc, hgiven]
    have hsession : c.session = session := by rw [hc]; rfl
    obtain ⟨-, hi, -⟩ | ⟨fault, hpath, -⟩ := Catalog.atKey_cases c.session c.id
    · have hplaces : Kept.Places (session, c.id) c :=
        ⟨hsession, rfl, hs, hi, by rw [hc]; exact List.nodup_nil⟩
      obtain ⟨e, hsave, hheld⟩ :=
        run_save_of_holdsAll (hdisk.symm ▸ h : HoldsAll given.disk kept) hplaces
      rw [run_bind_ok hsave, run_pure] at hrun
      rw [KeepsUp, Call.action, run_map_eq hrun]
      exact hheld
    · have hsave : run (save c) given = (.error (.archive (.key fault)), given) := by
        rw [save, run_bind_ok (run_get _), Archive.save, Archive.saveForm, hpath]
        exact run_bind_error (run_settle _ _ _)
      rw [run_bind_error hsave] at hrun
      exact keepsUp_of_error h (run_map_eq hrun Answer.created) hdisk
  · have hrun : run (create session prompt title) s = (.error (.archive (.key fault)), given) := by
      rw [create, run_bind_ok (run_nextStamp s), run_bind_ok (run_nextId _), hcheck, hgiven]
      exact run_bind_error (run_settle _ _ _)
    exact keepsUp_of_error h (run_map_eq hrun Answer.created) hdisk

/-- A step is entered into the conversation that is kept, whose labels all name stages. -/
theorem keepsUp_update (h : HoldsAll s.disk kept) (session id : Text) {r : Revision}
    (hr : (Call.update session id r).IsSingle) :
  s.KeepsUp kept (.update session id r)
  := by
  have hfind := run_find?_eq session id s
  obtain ⟨hs, hi, -⟩ | ⟨fault, hpath, -⟩ := Catalog.atKey_cases session id
  · obtain ⟨hf, -⟩ | ⟨c, hc, ⟨-, hf⟩ | ⟨-, issues, hf⟩⟩ := h.find? hs hi
    · rw [hf] at hfind
      have hrun : run (revise? session id r) s = (.ok none, s) := by
        rw [revise?, run_bind_ok hfind, run_pure]
      rw [KeepsUp, Call.action, run_map_eq hrun]
      exact h
    · rw [hf] at hfind
      have hkept := h.places _ (Entries.mem_of_get? hc)
      have hplaces : Kept.Places (session, id) (c.revise r (s.supply.stamp (s.stamps + 1))) := by
        refine ⟨hkept.session, hkept.id, hs, hi, ?_⟩
        rw [Conversation.revise]
        cases hp : r.progress with
        | none => exact hkept.single
        | some p => exact hr p hp
      obtain ⟨e, hsave, hheld⟩ :=
        run_save_of_holdsAll (h : HoldsAll { s with stamps := s.stamps + 1 }.disk kept) hplaces
      have hrun : run (revise? session id r) s
          = (.ok (some (c.revise r (s.supply.stamp (s.stamps + 1)))),
              { s with stamps := s.stamps + 1, disk := e }) := by
        rw [revise?, run_bind_ok hfind]
        dsimp only
        rw [run_bind_ok (run_nextStamp s)]
        exact run_bind_ok hsave
      rw [KeepsUp, Call.action, run_map_eq hrun]
      exact hheld
    · rw [hf] at hfind
      have hrun : run (revise? session id r) s = (.error (.archive (.record issues)), s) := by
        rw [revise?]
        exact run_bind_error hfind
      exact keepsUp_of_error h (run_map_eq hrun Answer.found) rfl
  · rw [Archive.find?, hpath] at hfind
    have hrun : run (revise? session id r) s = (.error (.archive (.key fault)), s) := by
      rw [revise?]
      exact run_bind_error hfind
    exact keepsUp_of_error h (run_map_eq hrun Answer.found) rfl

/-- What is deleted is not kept. -/
theorem run_delete_of_holdsAll (h : HoldsAll s.disk kept) (hs : Key.isKey session = true)
    (hi : Key.isKey id = true) :
  ∃ here d, run (delete session id) s = (.ok here, { s with disk := d })
    ∧ HoldsAll d (Entries.erase (session, id) kept)
  := by
  rw [run_delete_ok (Archive.path_eq_place hs hi)]
  by_cases hf : s.disk.hasFile (Archive.place (session, id)) = true
  · rw [if_pos hf]
    exact ⟨_, _, rfl, h.remove (session, id)⟩
  · have hnone : Entries.get? kept (session, id) = none := by
      rw [Disk.hasFile, h.file?, Option.isSome_map, Bool.not_eq_true,
        Option.isSome_eq_false_iff, Option.isNone_iff_eq_none] at hf
      exact hf
    have herase : Entries.erase (session, id) kept = kept := by
      rw [Entries.erase, List.filter_eq_self]
      intro e he
      have hsome := Entries.isSome_get?_of_mem he
      by_cases hkey : e.1 = (session, id)
      · rw [hkey, hnone] at hsome
        cases hsome
      · simpa using hkey
    rw [if_neg hf, herase]
    exact ⟨_, s.disk, rfl, h⟩

/-- Behind a deletion a disk has the files of what is left. -/
theorem keepsUp_delete (h : HoldsAll s.disk kept) (session id : Text) :
  s.KeepsUp kept (.delete session id)
  := by
  obtain ⟨hs, hi, -⟩ | ⟨fault, hpath, -⟩ := Catalog.atKey_cases session id
  · obtain ⟨here, d, hrun, hheld⟩ := run_delete_of_holdsAll h hs hi
    rw [KeepsUp, Call.action, run_map_eq hrun]
    exact hheld
  · exact keepsUp_of_error h (run_map_eq (run_delete_error hpath s) Answer.deleted) rfl

/-- What is deleted one by one is not kept. -/
theorem run_deleteAll_of_holdsAll (hs : Key.isKey session = true) {cs : List Conversation}
    (hcs : ∀ c ∈ cs, Key.isKey c.id = true) (h : HoldsAll s.disk kept) :
  ∃ n d, run (deleteAll session cs) s = (.ok n, { s with disk := d })
    ∧ HoldsAll d (kept.filter fun e => ∀ c ∈ cs, e.1 ≠ (session, c.id))
  := by
  induction cs generalizing s kept with
  | nil =>
      refine ⟨0, s.disk, rfl, ?_⟩
      rwa [List.filter_eq_self.mpr (by simp)]
  | cons c cs ih =>
      obtain ⟨here, d, hdelete, hheld⟩ :=
        run_delete_of_holdsAll h hs (hcs c List.mem_cons_self)
      obtain ⟨n, e, hrest, hheld'⟩ :=
        ih (fun c' hc' => hcs c' (List.mem_cons_of_mem _ hc'))
          (hheld : HoldsAll { s with disk := d }.disk _)
      refine ⟨n + here.toNat, e, ?_, ?_⟩
      · rw [deleteAll, run_bind_ok hdelete, run_bind_ok hrest, run_pure]
      · have hgone : (Entries.erase (session, c.id) kept).filter
              (fun e => ∀ c ∈ cs, e.1 ≠ (session, c.id))
            = kept.filter fun e => ∀ c' ∈ c :: cs, e.1 ≠ (session, c'.id) := by
          rw [Entries.erase, List.filter_filter]
          apply List.filter_congr
          intro e _
          rw [Bool.eq_iff_iff]
          simp [and_comm]
        rwa [hgone] at hheld'

/-- What is listed for a session is cleared, and then nothing of the session is kept. -/
theorem run_clear_of_holdsAll (h : HoldsAll s.disk kept) (hs : Key.isKey session = true)
    {cs : List Conversation} (hcs : Archive.all s.disk session = .ok cs)
    (hmem : ∀ c, c ∈ cs ↔ ∃ e ∈ kept, e.1.1 = session ∧ e.2 = c) :
  ∃ n d, run (clear session) s = (.ok n, { s with disk := d })
    ∧ HoldsAll d (kept.filter fun e => e.1.1 ≠ session)
  := by
  have hids : ∀ c ∈ cs, Key.isKey c.id = true := by
    intro c hc
    obtain ⟨e, he, -, rfl⟩ := (hmem c).mp hc
    rw [(h.places e he).id]
    exact (h.places e he).idKey
  obtain ⟨n, d, hdelete, hheld⟩ := run_deleteAll_of_holdsAll hs hids h
  have hgone : (kept.filter fun e => ∀ c ∈ cs, e.1 ≠ (session, c.id))
      = kept.filter fun e => e.1.1 ≠ session := by
    apply List.filter_congr
    intro e he
    rw [Bool.eq_iff_iff, decide_eq_true_iff, decide_eq_true_iff]
    constructor
    · intro hne hsession
      apply hne e.2 ((hmem _).mpr ⟨e, he, hsession, rfl⟩)
      rw [(h.places e he).id, ← hsession]
    · intro hne c _ hkey
      exact hne (congrArg Prod.fst hkey)
  rw [hgone] at hheld
  refine ⟨n, d, ?_, hheld⟩
  rw [clear, run_bind_ok ((run_all_eq session s).trans (by rw [hcs]; rfl)), hdelete]

/-- A session that cannot be listed is not cleared. -/
theorem run_clear_of_error {f : Archive.Fault} (hf : Archive.all s.disk session = .error f) :
  run (clear session) s = (.error (.archive f), s)
  := by
  have hall := run_all_eq session s
  rw [hf] at hall
  rw [clear]
  exact run_bind_error hall

/-- Behind a clearing a disk has no files of the session. -/
theorem keepsUp_clear (h : HoldsAll s.disk kept) (session : Text) :
  s.KeepsUp kept (.clear session)
  := by
  obtain ⟨hs, -⟩ | ⟨fault, -, hfolder, -⟩ := Catalog.inSession_cases session
  · obtain ⟨-, cs, hcs, hmem⟩ | ⟨-, issues, hf⟩ := h.all hs
    · obtain ⟨n, d, hrun, hheld⟩ := run_clear_of_holdsAll h hs hcs hmem
      rw [KeepsUp, Call.action, run_map_eq hrun]
      exact hheld
    · exact keepsUp_of_error h (run_map_eq (run_clear_of_error hf) Answer.cleared) rfl
  · have hf : Archive.all s.disk session = .error (.key fault) := by
      rw [Archive.all, hfolder]
      rfl
    exact keepsUp_of_error h (run_map_eq (run_clear_of_error hf) Answer.cleared) rfl

/-- A call that only reads leaves what is kept. -/
theorem keepsUp_of_reads {call : Call} (h : HoldsAll s.disk kept) (hreads : Reads call.action)
    (hkeep : ∀ outcome, call.keep kept outcome = kept) :
  s.KeepsUp kept call
  := by
  rw [KeepsUp, hreads, hkeep]
  exact h

theorem reads_map {α : Type} {x : Action α} (h : Reads x) (f : α → Answer) :
  Reads (f <$> x)
  := by
  intro s
  rw [run_map]
  exact h s

/-- Behind a call a disk has the files of what the call keeps. -/
theorem keepsUp (h : HoldsAll s.disk kept) {call : Call} (hcall : call.IsSingle) :
  s.KeepsUp kept call
  := by
  cases call with
  | create session prompt title => exact keepsUp_create h session prompt title
  | get session id => exact keepsUp_of_reads h (reads_map (reads_find? _ _) _) fun _ => rfl
  | list session => exact keepsUp_of_reads h (reads_map (reads_all _) _) fun _ => rfl
  | update session id r => exact keepsUp_update h session id hcall
  | delete session id => exact keepsUp_delete h session id
  | clear session => exact keepsUp_clear h session
  | context session id n =>
      exact keepsUp_of_reads h (reads_map (reads_context _ _ _) _) fun _ => rfl
  | exportAll session => exact keepsUp_of_reads h (reads_map (reads_exportText _) _) fun _ => rfl

/-! ### What is read behind all calls -/

/-- What is kept behind calls of a store that kept some conversations before. -/
def keptAfter : Store → Kept → List Call → Kept
  | _, before, [] => before
  | s, before, c :: cs =>
    keptAfter (run c.action s).2 (c.keep before (run c.action s).1) cs

/-- Behind all calls a disk has the files of what they keep. -/
theorem holdsAll_after {before : Kept} (h : HoldsAll s.disk before) {calls : List Call}
    (hcalls : ∀ c ∈ calls, c.IsSingle) :
  HoldsAll (s.after calls).disk (s.keptAfter before calls)
  := by
  induction calls generalizing s before with
  | nil => exact h
  | cons c cs ih =>
      exact ih (keepsUp h (hcalls c List.mem_cons_self)) fun c' hc' =>
        hcalls c' (List.mem_cons_of_mem _ hc')

/-- A call gives something if `p` holds, and otherwise a record that it reads is at fault. -/
def IsAnsweredIf (s : Store) (call : Call) (p : Prop) : Prop :=
  (p → (run call.action s).1.isOk = true)
    ∧ (¬ p → ∃ issues, (run call.action s).1 = .error (.archive (.record issues)))

/-- A conversation that is kept is found as it is, unless a label names no stage. -/
theorem isAnsweredIf_get (h : HoldsAll s.disk kept) {c : Conversation}
    (hc : Entries.get? kept (session, id) = some c) :
  s.IsAnsweredIf (.get session id) c.HasStages
    ∧ ((run (Call.get session id).action s).1 = .ok (.found (some c)) ↔ c.HasStages)
  := by
  have hplaces := h.places _ (Entries.mem_of_get? hc)
  have hget (outcome : Except Archive.Fault (Option Conversation))
      (hf : Archive.find? s.disk session id = outcome) :
      (run (Call.get session id).action s).1 = (outcome.mapError Fault.archive).map .found := by
    rw [Call.action, run_map_eq (run_find?_eq session id s), hf]
  obtain ⟨-, hnone⟩ | ⟨c', hc', hcases⟩ := h.find? hplaces.sessionKey hplaces.idKey
  · rw [hc] at hnone
    cases hnone
  · obtain rfl : c = c' := Option.some.inj (hc.symm.trans hc')
    obtain ⟨hstages, hf⟩ | ⟨hstages, issues, hf⟩ := hcases
    · rw [IsAnsweredIf, hget _ hf]
      exact ⟨⟨fun _ => rfl, fun hnot => absurd hstages hnot⟩, fun _ => hstages, fun _ => rfl⟩
    · rw [IsAnsweredIf, hget _ hf]
      refine ⟨⟨fun hs => absurd hs hstages, fun _ => ⟨issues, rfl⟩⟩, fun hget => ?_,
        fun hs => absurd hs hstages⟩
      cases hget

/-- What is kept for a session is listed, exported and cleared, unless a label there names no
stage. -/
theorem isAnsweredIf_all (h : HoldsAll s.disk kept) (hs : Key.isKey session = true) {call : Call}
    (hcall : call ∈ [.list session, .exportAll session, .clear session]) :
  s.IsAnsweredIf call (∀ e ∈ kept, e.1.1 = session → e.2.HasStages)
  := by
  have hall := run_all_eq session s
  simp only [List.mem_cons, List.not_mem_nil, or_false] at hcall
  obtain ⟨hstages, cs, hcs, hmem⟩ | ⟨hstages, issues, hf⟩ := h.all hs
  · obtain ⟨n, d, hclear, -⟩ := run_clear_of_holdsAll h hs hcs hmem
    rw [hcs] at hall
    have hexport := (run_exportText hall).1
    refine ⟨fun _ => ?_, fun hnot => absurd hstages hnot⟩
    obtain rfl | rfl | rfl := hcall
    · rw [Call.action, run_map_eq hall]
      rfl
    · rw [Call.action, run_map_eq hexport]
      rfl
    · rw [Call.action, run_map_eq hclear]
      rfl
  · rw [hf] at hall
    have hexport : run (exportText session) s = (.error (.archive (.record issues)), s) :=
      run_bind_error hall
    refine ⟨fun hs => absurd hs hstages, fun _ => ⟨issues, ?_⟩⟩
    obtain rfl | rfl | rfl := hcall
    · rw [Call.action, run_map_eq hall]
      rfl
    · rw [Call.action, run_map_eq hexport]
      rfl
    · rw [Call.action, run_map_eq (run_clear_of_error hf)]
      rfl

/-- An update keeps what it gives. -/
theorem get?_keep_update {r : Revision} {c : Conversation}
    {before : Kept} (h : (run (Call.update session id r).action s).1 = .ok (.found (some c))) :
  Entries.get? ((Call.update session id r).keep before (run (Call.update session id r).action s).1)
      (session, id)
    = some c
  := by
  rw [h]
  exact (Entries.get?_put _ _ _ _).trans (if_pos rfl)

/-- How a store is read that keeps some conversations.  What an update gives is found as it is
exactly when its labels name stages, and what is kept for a session is listed, exported and cleared
exactly when all labels there do; where they do not, a record is at fault. -/
structure Reading (s : Store) (kept : Kept) (session : Text) : Prop where
  updated : ∀ id r c, (Call.update session id r).IsSingle →
    (run (Call.update session id r).action s).1 = .ok (.found (some c)) →
      let s' := (run (Call.update session id r).action s).2
      s'.IsAnsweredIf (.get session id) c.HasStages
        ∧ ((run (Call.get session id).action s').1 = .ok (.found (some c)) ↔ c.HasStages)
  all : ∀ call ∈ [Call.list session, .exportAll session, .clear session],
    s.IsAnsweredIf call (∀ e ∈ kept, e.1.1 = session → e.2.HasStages)

/-- Behind all calls of a new store what they keep is read as far as its labels name stages. -/
theorem reading_after (opening : Opening) (supply : Supply) {past : List Call}
    (hpast : ∀ c ∈ past, c.IsSingle) {session : Text} (hs : Key.isKey session = true) :
  Reading ((Store.new opening supply).after past) ((Store.new opening supply).keptAfter [] past)
    session
  := by
  have h := holdsAll_after (Archive.holdsAll_new opening supply) hpast
  refine ⟨fun id r c hr hupdate => ?_, fun call hcall => isAnsweredIf_all h hs hcall⟩
  exact isAnsweredIf_get (keepsUp h hr) (get?_keep_update hupdate)

/-- Calls that enter a label that names no stage, and read what is kept then. -/
def callsUnknown : List Call :=
  [.create "ann" "Tea" none,
    .update "ann" "i" { segments := [], progress := some [("lumine", "L3")] },
    .get "ann" "i", .list "ann", .exportAll "ann", .clear "ann"]

/-- What calls keep with a label that names no stage is read as the theorem says. -/
theorem reading_after_unknown :
  (∀ c ∈ callsUnknown, c.IsSingle) ∧ Key.isKey "ann" = true
    ∧ Reading ((Store.new .absent .strokes).after callsUnknown)
        ((Store.new .absent .strokes).keptAfter [] callsUnknown) "ann"
  := by
  have hsingle : ∀ c ∈ callsUnknown, c.IsSingle := by
    simp only [callsUnknown, List.forall_mem_cons, Call.IsSingle, true_and]
    refine ⟨fun p hp => ?_, nofun⟩
    rw [← Option.some.inj hp]
    decide
  exact ⟨hsingle, by decide, reading_after .absent .strokes hsingle (by decide)⟩

/-- What an update gives with a label that names no stage is not found afterwards, and the session
of the conversation is neither listed nor exported nor cleared. -/
theorem answerEach_unknown :
  let c : Conversation :=
    { Conversation.new "i" "Tea" "Tea" "ann" "t" with
      progress := [("lumine", "L3")], updated := "tt" }
  let fault : Fault :=
    .archive (.record [⟨[.name "character_progress", .name "lumine"], .unknownLabel⟩])
  ((Store.new .absent .strokes).answerEach callsUnknown).drop 1
    = [.ok (.found (some c)), .error fault, .error fault, .error fault, .error fault]
  := by decide +kernel

end Store

end BranchingStory
