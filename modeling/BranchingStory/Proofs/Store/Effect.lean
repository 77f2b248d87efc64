import BranchingStory.Proofs.Store.Change

/-!
# What operations of the store change

The operations that only read, and how the others let a tidy store evolve: each of them writes
the file of the settings or of one conversation, or takes files of conversations away.
-/

namespace BranchingStory

namespace Store

open Operation

variable {s s' : Store} {session id : Text} {gone : Text → Text → Prop}

/-! ### Reading -/

/-- Settling an outcome leaves the store. -/
theorem reads_settle {ε α : Type} (wrap : ε → Fault) (r : Except ε α) :
  Reads (settle wrap r)
  := by
  intro s
  rw [run_settle]

/-- Reading the settings leaves the store. -/
theorem reads_settings :
  Reads settings
  := by
  intro s
  rw [run_settings]

/-- Finding a conversation leaves the store. -/
theorem reads_find? (session id : Text) :
  Reads (find? session id)
  := reads_get.bind fun _ => reads_settle _ _

/-- Listing the conversations of a session leaves the store. -/
theorem reads_all (session : Text) :
  Reads (all session)
  := reads_get.bind fun _ => reads_settle _ _

/-- Showing the last segments of a conversation leaves the store. -/
theorem reads_context (session id : Text) (n : Int) :
  Reads (context session id n)
  := (reads_find? session id).bind fun _ => reads_pure _

/-- Exporting a session leaves the store. -/
theorem reads_exportText (session : Text) :
  Reads (exportText session)
  := (reads_all session).bind fun _ => reads_pure _

/-- What the store finds is found on its disk. -/
theorem find?_of_run {found : Option Conversation} (h : run (find? session id) s = (.ok found, s)) :
  Archive.find? s.disk session id = .ok found
  := by
  rw [find?, run_bind_ok (run_get s), run_settle] at h
  cases hr : Archive.find? s.disk session id with
  | error f =>
      rw [hr] at h
      cases congrArg Prod.fst h
  | ok c =>
      rw [hr] at h
      rw [Except.ok.inj (congrArg Prod.fst h)]

/-- Reading the opening changes what is remembered of it, if anything. -/
theorem run_openingText_snd (s : Store) :
  ∃ m, (run openingText s).2 = { s with remembered := m }
  := by
  rw [openingText, run_bind_ok (run_get s)]
  cases hm : s.remembered with
  | some t =>
      use s.remembered
      rfl
  | none =>
      cases s.opening.read with
      | error f =>
          use s.remembered
          rfl
      | ok t =>
          use some t
          rfl

/-! ### Writing -/

/-- A store to which nothing happened, or the file of its settings was written. -/
def Configures (s s' : Store) : Prop :=
  s' = s ∨ ∃ t, s' = { s with disk := s.disk.putFile settingsPath t }

/-- Changing the settings writes their file, if it does anything. -/
theorem configures_changeSettings (fields : Json) (s : Store) :
  Configures s (run (changeSettings fields) s).2
  := by
  rw [changeSettings]
  refine reads_settings.run_bind (P := Configures s) (.inl rfl) fun v _ => ?_
  refine (reads_settle _ _).run_bind (P := Configures s) (.inl rfl) fun changed _ => ?_
  rw [run_bind_ok (run_get s)]
  refine (reads_settle _ _).run_bind (P := Configures s) (.inl rfl) fun t _ => ?_
  cases hd : s.disk.write settingsPath t with
  | error f => exact .inl rfl
  | ok d =>
      obtain ⟨-, rfl⟩ := Disk.write_eq_ok_iff.mp hd
      exact .inr ⟨_, rfl⟩

/-- Writing the settings lets a store evolve. -/
theorem Configures.evolves (h : s.Configures s') :
  Evolves gone s s'
  := by
  obtain rfl | ⟨t, rfl⟩ := h
  · apply Evolves.refl
  · constructor
    · refine ⟨rfl, le_rfl, ?_⟩
      intro session id p hp hplace
      exact hplace.putFile_of_notMem (settingsPath_ne hp).2 _
    · apply Change.still
      intro p hp
      exact (Disk.file?_putFile _ _ _ _).trans (if_neg hp.symm)

/-- Storing a conversation puts it in its place, if it does anything. -/
theorem run_save_snd (c : Conversation) (s : Store) :
  (run (save c) s).2 = s ∨ ∃ p e, (run (save c) s).2 = { s with disk := e }
    ∧ Archive.Holds e p c ∧ (∀ q, p ≠ q → e.file? q = s.disk.file? q)
    ∧ ∀ session id q, Archive.path session id = .ok q → s.disk.IsPlace q → e.IsPlace q
  := by
  rw [save, run_bind_ok (run_get s)]
  cases he : Archive.save s.disk c with
  | error f => exact Or.inl rfl
  | ok e =>
      obtain ⟨p, hheld, hothers⟩ := Archive.holds_of_save he
      exact Or.inr ⟨p, e, rfl, hheld, hothers, fun _ _ _ => Archive.isPlace_of_save he⟩

/-- Creating a conversation stores a new one under the next id, if it does anything. -/
theorem evolves_create (session prompt : Text) (title : Option Text) (s : Store) :
  Evolves gone s (run (create session prompt title) s).2
  := by
  have hgiven : Evolves gone s { s with stamps := s.stamps + 1, ids := s.ids + 1 } :=
    .of_disk rfl rfl (Nat.le_succ _)
  rw [create, run_bind_ok (run_nextStamp s), run_bind_ok (run_nextId _)]
  refine (reads_settle _ _).run_bind (P := Evolves gone s) hgiven fun key _ => ?_
  dsimp only
  rw [run_bind_reads fun _ => reads_pure _]
  generalize hc : Conversation.new _ _ _ _ _ = c
  have hid : c.id = s.supply.id (s.ids + 1) := by
    rw [← hc]
    rfl
  have hregular : c.IsRegular := by
    rw [← hc]
    apply Conversation.isRegular_new
  obtain hsame | ⟨p, e, hsaved, hheld, hothers, hplaces⟩ :=
    run_save_snd c { s with stamps := s.stamps + 1, ids := s.ids + 1 }
  · rw [hsame]
    exact hgiven
  · rw [hsaved]
    exact ⟨⟨rfl, Nat.le_succ _, hplaces⟩, .created hheld hregular hid (Nat.lt_succ_self _) hothers⟩

/-- Storing what is no text fails, and makes the folder of the session first, if it can. -/
theorem exists_run_saveBroken {α : Type} (session id : Text) (s : Store) :
  ∃ f d, run (saveBroken session id : Action α) s = (.error f, { s with disk := d })
    ∧ (d = s.disk ∨ s.disk.makeFolder (Archive.root ++ [session]) = .ok d)
  := by
  rw [saveBroken]
  cases hp : Archive.path session id with
  | error f => exact ⟨_, s.disk, run_bind_error (run_settle _ _ _), .inl rfl⟩
  | ok p =>
      obtain ⟨-, -, rfl⟩ := Archive.path_eq_ok_iff.mp hp
      rw [run_bind_ok (run_settle _ _ _), run_bind_ok (run_get s), List.dropLast_concat]
      cases hd : s.disk.makeFolder (Archive.root ++ [session]) with
      | error f => exact ⟨_, s.disk, run_bind_error (run_settle _ _ _), .inl rfl⟩
      | ok d =>
          refine ⟨.archive .brokenText, d, ?_, .inr rfl⟩
          rw [run_bind_ok (run_settle _ _ _), run_bind_ok (run_set _ _)]
          rfl

/-- Making the folder of a session matters to no file. -/
theorem Evolves.of_folder
    (h : s'.disk = s.disk ∨ s.disk.makeFolder (Archive.root ++ [session]) = .ok s'.disk)
    (hs : s'.supply = s.supply) (hi : s.ids ≤ s'.ids) :
  Evolves gone s s'
  := by
  obtain h | h := h
  · exact .of_disk h hs hi
  · constructor
    · refine ⟨hs, hi, fun key id p hp hplace => hplace.of_makeFolder h fun hmem => ?_⟩
      -- The file of a conversation lies deeper than the folder of a session.
      have hlength := Archive.length_path hp
      rw [List.mem_append, List.mem_singleton] at hmem
      obtain hmem | rfl := hmem
      · have hshort := Disk.length_of_mem_around hmem
        rw [List.length_append, List.length_singleton, Archive.root, List.length_singleton] at hshort
        omega
      · cases hlength
    · apply Change.still
      intro p _
      rw [Disk.file?, Disk.file?, Disk.makeFolder_files h]

/-- Creating a conversation of what is no text stores none. -/
theorem evolves_createBroken {α : Type} (session : Text) (s : Store) :
  Evolves gone s (run (createBroken session : Action α) s).2
  := by
  rw [createBroken, run_bind_ok (run_nextStamp s), run_bind_ok (run_nextId _)]
  refine (reads_settle _ _).run_bind (P := Evolves gone s) (.of_disk rfl rfl (Nat.le_succ _))
    fun key _ => ?_
  obtain ⟨f, d, hrun, hd⟩ := exists_run_saveBroken (α := α) key (s.supply.id (s.ids + 1))
    { s with stamps := s.stamps + 1, ids := s.ids + 1 }
  rw [hrun]
  exact .of_folder hd rfl (Nat.le_succ _)

/-- Revising a conversation in a tidy store puts the revised one in its place, if it does
anything. -/
theorem evolves_revise? (h : s.IsTidy) {r : Revision}
    (hr : ∀ c, Archive.find? s.disk session id = .ok (some c) → c.Suits r) :
  Evolves gone s (run (revise? session id r) s).2
  := by
  rw [revise?]
  refine (reads_find? session id).run_bind (P := Evolves gone s) (.refl s) fun found hfound => ?_
  cases found with
  | none => apply Evolves.refl
  | some c =>
      have hfind := find?_of_run hfound
      obtain ⟨-, -, -, -, rfl, rfl, -⟩ := h.of_find? hfind
      dsimp only
      rw [run_bind_ok (run_nextStamp s), run_bind_reads fun _ => reads_pure _]
      obtain hsame | ⟨p, e, hsaved, hheld, hothers, hplaces⟩ :=
        run_save_snd (c.revise r (s.supply.stamp (s.stamps + 1))) { s with stamps := s.stamps + 1 }
      · rw [hsame]
        exact .of_disk rfl rfl le_rfl
      · rw [hsaved]
        exact ⟨⟨rfl, le_rfl, hplaces⟩, .revised hfind r _ (hr c hfind) hheld hothers⟩

/-- Revising a conversation by what is no text leaves every file. -/
theorem evolves_reviseBroken? {α : Type} (s : Store) :
  Evolves gone s (run (reviseBroken? session id : Action (Option α)) s).2
  := by
  rw [reviseBroken?]
  refine (reads_find? session id).run_bind (P := Evolves gone s) (.refl s) fun found _ => ?_
  cases found with
  | none => apply Evolves.refl
  | some c =>
      dsimp only
      rw [run_bind_ok (run_nextStamp s)]
      obtain ⟨f, d, hrun, hd⟩ := exists_run_saveBroken (α := Option α) c.session c.id
        { s with stamps := s.stamps + 1 }
      rw [hrun]
      exact .of_folder hd rfl le_rfl

/-! ### Taking away -/

/-- A store of which conversations were taken away. -/
structure Thins (gone : Text → Text → Prop) (s s' : Store) : Prop where
  continues : s.Continues s'
  files : ∀ q, s'.disk.file? q = s.disk.file? q
    ∨ s'.disk.file? q = none ∧ ∃ session id, Archive.path session id = .ok q ∧ gone session id

theorem Thins.refl (s : Store) :
  Thins gone s s
  := ⟨.of_disk rfl rfl le_rfl, fun _ => Or.inl rfl⟩

/-- What is taken away in two steps is taken away. -/
theorem Thins.trans {s'' : Store} (h : Thins gone s s') (h' : Thins gone s' s'') :
  Thins gone s s''
  := by
  refine ⟨h.continues.trans h'.continues, fun q => ?_⟩
  obtain hsame | hnone := h'.files q
  · rw [hsame]
    exact h.files q
  · exact Or.inr hnone

/-- Taking conversations away lets a store evolve. -/
theorem Thins.evolves (h : Thins gone s s') :
  Evolves gone s s'
  := ⟨h.continues, .removed h.files⟩

/-- Deleting a conversation takes its file away, if it does anything. -/
theorem thins_delete (hgone : gone session id) (s : Store) :
  Thins gone s (run (delete session id) s).2
  := by
  cases hp : Archive.path session id with
  | error f =>
      rw [run_delete_error hp]
      apply Thins.refl
  | ok p =>
      rw [run_delete_ok hp]
      dsimp only
      split_ifs
      · refine ⟨⟨rfl, le_rfl, fun _ _ q _ hplace => hplace.of_remove p⟩, fun q => ?_⟩
        dsimp only
        rw [Disk.file?_remove]
        split_ifs with hq
        · subst hq
          exact Or.inr ⟨rfl, session, id, hp, hgone⟩
        · exact Or.inl rfl
      · apply Thins.refl

/-- Deleting conversations takes their files away. -/
theorem thins_deleteAll (cs : List Conversation) (hgone : ∀ id, gone session id) (s : Store) :
  Thins gone s (run (deleteAll session cs) s).2
  := by
  induction cs generalizing s with
  | nil => apply Thins.refl
  | cons c cs ih =>
      rw [deleteAll]
      have hdelete := thins_delete (hgone c.id) s
      refine snd_run_bind (P := Thins gone s) hdelete fun here s' hs' => ?_
      rw [hs'] at hdelete
      rw [run_bind_reads fun _ => reads_pure _]
      exact hdelete.trans (ih s')

theorem thins_clear (hgone : ∀ id, gone session id) (s : Store) :
  Thins gone s (run (clear session) s).2
  := by
  rw [clear]
  exact (reads_all session).run_bind (P := Thins gone s) (.refl s)
    fun cs _ => thins_deleteAll cs hgone s

end Store

end BranchingStory
