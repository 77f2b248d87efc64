import BranchingStory.Proofs.Store.Effect
import BranchingStory.Proofs.Store.Shelf

/-!
# How far an operation reaches

An operation acts for a session when it stores and takes away conversations of this session only
and leaves every file alone whenever it fails.  Operations that act are put together of a part that
leaves the disk and a last part that writes files only when it does not fail any more.
-/

namespace BranchingStory

namespace Store

open Operation

/-- A store that remembers of the opening nothing but what is read of it. -/
def Recalls (s : Store) : Prop :=
  ∀ t, s.remembered = some t → s.opening.read = .ok t

/-- An operation that touches the files of at most one session and either leaves all files or gives
something of a kind. -/
structure Acts {ε α : Type} (session : Option Text) (P : α → Prop) (s : Store)
    (x : ExceptT ε (StateM Store) α) : Prop where
  touches : Archive.Touches session s.disk (run x s).2.disk
  opening : (run x s).2.opening = s.opening
  recalls : s.Recalls → (run x s).2.Recalls
  done : (run x s).2.disk.files = s.disk.files ∨ ∃ a, (run x s).1 = .ok a ∧ P a

/-- That an operation gives anything. -/
def Gives {α : Type} : α → Prop :=
  fun _ => True

variable {ε α β : Type} {session : Option Text} {P : β → Prop} {Q : α → Prop} {s : Store}
  {x : ExceptT ε (StateM Store) α} {f : α → ExceptT ε (StateM Store) β} {key id : Text}

/-! ### Putting operations together -/

/-- An operation that leaves the disk and the opening acts for any session. -/
theorem acts_of_disk (hd : (run x s).2.disk = s.disk) (ho : (run x s).2.opening = s.opening)
    (hr : (run x s).2.remembered = s.remembered) :
  Acts session Q s x
  where
  touches := by
    rw [hd]
    exact .still
  opening := ho
  recalls h t ht := by
    rw [hr] at ht
    rw [ho, h t ht]
  done := .inl (congrArg Disk.files hd)

/-- An operation that gives something and changes only the disk acts for the session that it
touches. -/
theorem acts_of_ok {a : α} {d : Disk} (hrun : run x s = (.ok a, { s with disk := d }))
    (h : Archive.Touches session s.disk d) (ha : Q a) :
  Acts session Q s x
  where
  touches := by
    rw [hrun]
    exact h
  opening := by rw [hrun]
  recalls hs := by
    rw [hrun]
    exact hs
  done := by
    rw [hrun]
    exact .inr ⟨a, rfl, ha⟩

/-- An operation that only reads acts for any session. -/
theorem acts_of_reads (hx : Reads x) (s : Store) :
  Acts session Q s x
  := acts_of_disk (by rw [hx s]) (by rw [hx s]) (by rw [hx s])

/-- An operation that leaves what another one leaves acts as this one, if the disk stays. -/
theorem Acts.of_snd_eq {ε' : Type} {y : ExceptT ε' (StateM Store) β} (hx : Acts session Q s x)
    (hd : (run x s).2.disk = s.disk) (hy : (run y s).2 = (run x s).2) :
  Acts session P s y
  where
  touches := by
    rw [hy]
    exact hx.touches
  opening := by rw [hy, hx.opening]
  recalls := by
    rw [hy]
    exact hx.recalls
  done := by
    rw [hy]
    exact .inl (congrArg Disk.files hd)

/-- Behind a part that leaves the disk, what acts acts. -/
theorem Acts.bind (hx : Acts session Q s x) (hd : (run x s).2.disk = s.disk)
    (hf : ∀ a s', run x s = (.ok a, s') → Acts session P s' (f a)) :
  Acts session P s (x >>= f)
  := by
  cases hr : run x s with
  | mk outcome s' =>
      have hopening := hx.opening
      have hrecalls := hx.recalls
      rw [hr] at hd hopening hrecalls
      cases outcome with
      | error e =>
          have hbind := run_bind_error (f := f) hr
          refine ⟨?_, ?_, ?_, ?_⟩
          · rw [hbind, hd]
            exact .still
          · rw [hbind, hopening]
          · rw [hbind]
            exact hrecalls
          · rw [hbind]
            exact .inl (congrArg Disk.files hd)
      | ok a =>
          have hbind := run_bind_ok (f := f) hr
          obtain ⟨htouches, hopening', hrecalls', hdone⟩ := hf a s' hr
          refine ⟨?_, ?_, ?_, ?_⟩
          · rw [hbind, ← hd]
            exact htouches
          · rw [hbind, hopening', hopening]
          · rw [hbind]
            exact hrecalls' ∘ hrecalls
          · rw [hbind, ← hd]
            exact hdone

/-- Behind reading, what acts acts. -/
theorem acts_bind_of_reads (hx : Reads x) (hf : ∀ a, run x s = (.ok a, s) → Acts session P s (f a)) :
  Acts session P s (x >>= f)
  := by
  apply (acts_of_reads (Q := Gives) hx s).bind (by rw [hx s])
  intro a s' ha
  obtain rfl : s' = s := by rw [← hx s, ha]
  exact hf a ha

/-- An operation that acts may be followed by one that gives an answer without fail. -/
theorem Acts.answer (hx : Acts session Q s x) {g : α → β} (hg : ∀ a, Q a → P (g a)) :
  Acts session P s (x >>= fun a => pure (g a))
  := by
  have hstate : (run (x >>= fun a => pure (g a)) s).2 = (run x s).2 :=
    run_bind_reads (fun _ => reads_pure _) s
  refine ⟨?_, ?_, ?_, ?_⟩
  · rw [hstate]
    exact hx.touches
  · rw [hstate]
    exact hx.opening
  · rw [hstate]
    exact hx.recalls
  · rw [hstate]
    apply hx.done.imp_right
    rintro ⟨a, ha, hQ⟩
    have hr : run x s = (.ok a, (run x s).2) := Prod.ext ha rfl
    exact ⟨g a, by rw [run_bind_ok hr, run_pure], hg a hQ⟩

/-! ### Operations of the store -/

/-- In a tidy store the conversations are in their places. -/
theorem IsTidy.isFiled (h : s.IsTidy) :
  Archive.IsFiled s.disk
  := by
  intro p c hp hread
  obtain hsettings | ⟨d, hd, hregular, -⟩ := h p (Archive.hasFile_of_readAt hread)
  · contradiction
  · rw [Archive.readAt_of_file? hd.file hregular.storable] at hread
    rw [← Except.ok.inj hread]
    exact hd.path

/-- Storing a conversation touches its session. -/
theorem acts_save {c : Conversation} (hc : c.IsStorable) (hs : session = some c.session)
    (s : Store) :
  Acts session Gives s (save c)
  := by
  cases he : Archive.save s.disk c with
  | error f =>
      have hrun : run (save c) s = (.error (.archive f), s) := by
        rw [save, run_bind_ok (run_get s), he]
        exact run_bind_error (run_settle _ _ _)
      apply acts_of_disk
      · rw [hrun]
      · rw [hrun]
      · rw [hrun]
  | ok e =>
      have hrun : run (save c) s = (.ok ⟨⟩, { s with disk := e }) := by
        rw [save, run_bind_ok (run_get s), he, run_bind_ok (run_settle _ _ _), run_set]
      exact acts_of_ok hrun (.saved .still hs hc he) trivial

/-- Storing what is no text touches its session at most, and no file. -/
theorem acts_saveBroken {Q : α → Prop} (session : Option Text) (key id : Text) (s : Store) :
  Acts session Q s (saveBroken key id : Action α)
  := by
  obtain ⟨f, d, hrun, hd⟩ := exists_run_saveBroken (α := α) key id s
  have hfiles : d.files = s.disk.files := by
    obtain rfl | hmake := hd
    · rfl
    · exact Disk.makeFolder_files hmake
  refine ⟨?_, ?_, fun h => ?_, ?_⟩
  · rw [hrun]
    obtain rfl | hmake := hd
    · exact .still
    · exact .placed .still hmake
  · rw [hrun]
  · rw [hrun]
    exact h
  · rw [hrun]
    exact .inl hfiles

/-- Giving out a stamp touches no files. -/
theorem acts_nextStamp (s : Store) :
  Acts session Gives s nextStamp
  := acts_of_disk rfl rfl rfl

/-- Giving out an id touches no files. -/
theorem acts_nextId (s : Store) :
  Acts session Gives s nextId
  := acts_of_disk rfl rfl rfl

/-- Creating a conversation touches its session. -/
theorem acts_create (prompt : Text) (title : Option Text) (s : Store) :
  Acts (some key) Gives s (create key prompt title)
  := by
  apply (acts_nextStamp s).bind rfl
  intro now s₁ _
  apply (acts_nextId s₁).bind rfl
  intro id s₂ _
  apply acts_bind_of_reads (reads_settle _ _)
  intro session hsession
  rw [run_settle, Key.check] at hsession
  split_ifs at hsession
  · obtain rfl : key = session := Except.ok.inj (congrArg Prod.fst hsession)
    have hstorable := (Conversation.isRegular_new id
      (if (title.getD []).isEmpty then Title.ofPrompt prompt else title.getD []) prompt key
      now).storable
    exact (acts_save hstorable rfl s₂).answer (P := Gives) fun _ _ => trivial
  · cases congrArg Prod.fst hsession

/-- A conversation that cannot be written touches no files. -/
theorem acts_createBroken {Q : α → Prop} (session : Option Text) (key : Text) (s : Store) :
  Acts session Q s (createBroken key : Action α)
  := by
  apply (acts_nextStamp s).bind rfl
  intro now s₁ _
  apply (acts_nextId s₁).bind rfl
  intro id s₂ _
  apply acts_bind_of_reads (reads_settle _ _)
  intro key _
  exact acts_saveBroken session key id s₂

/-- Revising a conversation that is in its place touches its session. -/
theorem acts_revise? (h : Archive.IsFiled s.disk) {r : Revision}
    (hr : ∀ c, Archive.find? s.disk key id = .ok (some c) → c.Suits r) :
  Acts (some key) Gives s (revise? key id r)
  := by
  apply acts_bind_of_reads (reads_find? key id)
  intro found hfound
  cases found with
  | none => apply acts_of_reads (reads_pure _)
  | some c =>
      have hfind := find?_of_run hfound
      obtain ⟨hs, -, hstorable⟩ := h.of_find? hfind
      apply (acts_nextStamp s).bind rfl
      intro now s' _
      have hsession : some key = some (c.revise r now).session := congrArg some hs.symm
      exact (acts_save ((hr c hfind).isStorable hstorable now) hsession s').answer fun _ _ => trivial

/-- A revision that cannot be written touches no files. -/
theorem acts_reviseBroken? {Q : Option α → Prop} (session : Option Text)
    (s : Store) :
  Acts session Q s (reviseBroken? key id : Action (Option α))
  := by
  apply acts_bind_of_reads (reads_find? key id)
  intro found _
  cases found with
  | none => apply acts_of_reads (reads_pure _)
  | some c =>
      apply (acts_nextStamp s).bind rfl
      intro now s' _
      exact acts_saveBroken session c.session c.id s'

/-- Deleting under keys does not fail and touches the session. -/
theorem exists_delete (hkey : Key.isKey key = true) (hid : Key.isKey id = true) (s : Store) :
  ∃ here d, run (delete key id) s = (.ok here, { s with disk := d })
    ∧ Archive.Touches (some key) s.disk d
  := by
  have hp := Archive.path_eq_ok_iff.mpr ⟨hkey, hid, rfl⟩
  rw [run_delete_ok hp]
  split_ifs
  · exact ⟨_, _, rfl, .removed .still rfl hp⟩
  · exact ⟨_, _, rfl, .still⟩

/-- Deleting a conversation touches the files of its session only. -/
theorem acts_delete (hkey : Key.isKey key = true) (hid : Key.isKey id = true) (s : Store) :
  Acts (some key) Gives s (delete key id)
  := by
  obtain ⟨here, d, hrun, htouches⟩ := exists_delete hkey hid s
  exact acts_of_ok hrun htouches trivial

/-- Deleting several conversations of a session succeeds and touches its files only. -/
theorem exists_deleteAll (hkey : Key.isKey key = true) {cs : List Conversation}
    (hcs : ∀ c ∈ cs, Key.isKey c.id = true) (s : Store) :
  ∃ n d, run (deleteAll key cs) s = (.ok n, { s with disk := d })
    ∧ Archive.Touches (some key) s.disk d
  := by
  induction cs generalizing s with
  | nil => exact ⟨0, s.disk, rfl, .still⟩
  | cons c cs ih =>
      obtain ⟨here, d, hdelete, htouches⟩ := exists_delete hkey (hcs c List.mem_cons_self) s
      obtain ⟨n, e, hrest, htouches'⟩ := ih (fun c' hc' => hcs c' (List.mem_cons_of_mem _ hc'))
        { s with disk := d }
      refine ⟨n + here.toNat, e, ?_, htouches.trans htouches'⟩
      rw [deleteAll, run_bind_ok hdelete, run_bind_ok hrest, run_pure]

/-- Clearing a session does not fail once its conversations are listed, and touches it. -/
theorem acts_clear (h : Archive.IsFiled s.disk) :
  Acts (some key) Gives s (clear key)
  := by
  apply acts_bind_of_reads (reads_all key)
  intro cs hcs
  rw [run_all_eq] at hcs
  obtain ⟨hkey, hids⟩ := h.of_all (mapError_eq_ok_iff.mp (congrArg Prod.fst hcs))
  obtain ⟨n, d, hrun, htouches⟩ := exists_deleteAll hkey hids s
  exact acts_of_ok hrun htouches trivial

/-- Reading the opening remembers nothing but what is read. -/
theorem run_openingText_of_recalls (h : s.Recalls) :
  ∃ m, run openingText s = (s.opening.read.mapError .opening, { s with remembered := m })
    ∧ ∀ t, m = some t → s.opening.read = .ok t
  := by
  rw [openingText, run_bind_ok (run_get s)]
  cases hm : s.remembered with
  | some t =>
      refine ⟨s.remembered, ?_, h⟩
      rw [h t hm]
      rfl
  | none =>
      cases ho : s.opening.read with
      | error f => exact ⟨s.remembered, rfl, fun t ht => ho ▸ h t ht⟩
      | ok t => exact ⟨some t, rfl, fun t' ht' => congrArg Except.ok (Option.some.inj ht')⟩

/-- Reading the opening leaves the disk. -/
theorem acts_openingText (s : Store) :
  Acts session Gives s openingText ∧ (run openingText s).2.disk = s.disk
  := by
  obtain ⟨m, hm⟩ := run_openingText_snd s
  have hdisk : (run openingText s).2.disk = s.disk := by rw [hm]
  refine ⟨⟨?_, ?_, fun h => ?_, .inl (congrArg Disk.files hdisk)⟩, hdisk⟩
  · rw [hdisk]
    exact .still
  · rw [hm]
  · obtain ⟨m', hrun, hm'⟩ := run_openingText_of_recalls h
    rw [hrun]
    exact hm'

end Store

end BranchingStory
