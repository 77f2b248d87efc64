import BranchingStory.Proofs.Store.Acts

/-!
# Stores that a session cannot tell apart

Two stores are alike to a session when its shelf, the settings and the opening are the same.  An
operation coincides for the session when alike stores with the same supply give the same outcome
and stay alike, whatever else is in them; operations put together of such ones coincide.
-/

namespace BranchingStory

namespace Store

open Operation

/-! ### Orderly stores -/

/-- A store with nothing on the disk but the settings and conversations in their places, that
remembers what is read of the opening. -/
structure IsOrderly (s : Store) : Prop where
  shallow : s.disk.IsShallow
  filed : Archive.IsFiled s.disk
  recalls : s.Recalls

/-- A store in which there are no conversations yet. -/
theorem isOrderly_of_empty {s : Store}
    (hempty : ∀ p, s.disk.hasFile p = true → p = settingsPath)
    (hfolders : ∀ p ∈ s.disk.folders, p.length ≤ 2) (hm : s.remembered = none) :
  s.IsOrderly
  where
  shallow := ⟨fun p hp => .inl (hempty p hp), hfolders⟩
  filed p c hp hread := by
    exact absurd (hempty p (Archive.hasFile_of_readAt hread)) hp
  recalls t ht := by
    rw [hm] at ht
    cases ht

/-- What acts leaves a store orderly. -/
theorem Acts.isOrderly {ε α : Type} {s : Store} {session : Option Text} {P : α → Prop}
    {x : ExceptT ε (StateM Store) α} (hx : Acts session P s x) (h : s.IsOrderly) :
  (run x s).2.IsOrderly
  := ⟨hx.touches.isShallow h.shallow, hx.touches.isFiled h.filed, hx.recalls h.recalls⟩

/-- Changing the settings leaves a store orderly. -/
theorem Configures.isOrderly {s s' : Store} (hs : s.Configures s') (h : s.IsOrderly) :
  s'.IsOrderly
  := by
  obtain rfl | ⟨t, rfl⟩ := hs
  · exact h
  · refine ⟨⟨fun p hp => ?_, h.shallow.folders⟩, fun p c hp hread => ?_, h.recalls⟩
    · rw [Disk.hasFile, Disk.file?_putFile] at hp
      split_ifs at hp with hpath
      · exact .inl hpath.symm
      · exact h.shallow.files p hp
    · apply h.filed p c hp
      rw [Archive.readAt_eq_ok_iff] at hread ⊢
      rwa [Disk.file?_putFile, if_neg hp.symm] at hread

/-! ### Alike stores -/

/-- Stores in which a session finds the same. -/
structure Alike (key : Text) (s t : Store) : Prop where
  shelf : Archive.shelf key s.disk = Archive.shelf key t.disk
  settings : s.disk.file? settingsPath = t.disk.file? settingsPath
  opening : s.opening = t.opening
  shallow : s.disk.IsShallow ∧ t.disk.IsShallow
  recalls : s.Recalls ∧ t.Recalls

/-- Stores in which a session finds the same and is given the same. -/
structure Twins (key : Text) (s t : Store) : Prop extends Alike key s t where
  supply : s.supply = t.supply
  stamps : s.stamps = t.stamps
  ids : s.ids = t.ids

variable {ε α β : Type} {key : Text} {s t : Store}

/-- A store that is given another supply. -/
def hand (s : Store) (supply : Supply) : Store :=
  { s with supply := supply, stamps := 0, ids := 0 }

/-- A store stays orderly when it is handed another supply. -/
theorem IsOrderly.hand (h : s.IsOrderly) (supply : Supply) :
  (s.hand supply).IsOrderly
  := ⟨h.shallow, h.filed, h.recalls⟩

/-- Alike stores become twins when they are given the same. -/
theorem Alike.hand (h : Alike key s t) (supply : Supply) :
  Twins key (s.hand supply) (t.hand supply)
  := ⟨⟨h.shelf, h.settings, h.opening, h.shallow, h.recalls⟩, rfl, rfl, rfl⟩

/-- What acts for another session leaves a store alike to this one. -/
theorem Acts.alike {session : Option Text} {P : α → Prop} {x : ExceptT ε (StateM Store) α}
    (hx : Acts session P s x) (hkey : session ≠ some key) (h : Alike key s t) :
  Alike key (run x s).2 t
  where
  shelf := by rw [hx.touches.shelf_eq hkey, h.shelf]
  settings := by rw [hx.touches.settings, h.settings]
  opening := by rw [hx.opening, h.opening]
  shallow := ⟨hx.touches.isShallow h.shallow.1, h.shallow.2⟩
  recalls := ⟨hx.recalls h.recalls.1, h.recalls.2⟩

/-- An orderly store is alike to itself for every session. -/
theorem IsOrderly.alike (h : s.IsOrderly) :
  Alike key s s
  := ⟨rfl, rfl, rfl, ⟨h.shallow, h.shallow⟩, ⟨h.recalls, h.recalls⟩⟩

/-- Stores that are alike stay so when the disks are changed to such that are. -/
theorem Twins.of_disks (h : Twins key s t) {d e : Disk}
    (hshelf : Archive.shelf key d = Archive.shelf key e)
    (hsettings : d.file? settingsPath = e.file? settingsPath)
    (hshallow : d.IsShallow ∧ e.IsShallow) :
  Twins key { s with disk := d } { t with disk := e }
  where
  shelf := hshelf
  settings := hsettings
  opening := h.opening
  shallow := hshallow
  recalls := h.recalls
  supply := h.supply
  stamps := h.stamps
  ids := h.ids

/-! ### Operations that coincide -/

/-- An operation that gives a session the same in twins and leaves them twins. -/
def Coincides (key : Text) (x : ExceptT ε (StateM Store) α) : Prop :=
  ∀ s t, Twins key s t →
    (run x s).1 = (run x t).1 ∧ Twins key (run x s).2 (run x t).2

variable {x : ExceptT ε (StateM Store) α} {f : α → ExceptT ε (StateM Store) β}

/-- An operation whose outcome does not depend on the store, which it leaves. -/
theorem coincides_of_const {outcome : Except ε α} (h : ∀ s, run x s = (outcome, s)) :
  Coincides key x
  := by
  intro s t hst
  rw [h, h]
  exact ⟨rfl, hst⟩

/-- What does nothing does the same to both stores. -/
theorem coincides_pure (a : α) :
  Coincides key (pure a : ExceptT ε (StateM Store) α)
  := coincides_of_const fun _ => rfl

/-- What only fails does the same to both stores. -/
theorem coincides_throw (e : ε) :
  Coincides key (throw e : ExceptT ε (StateM Store) α)
  := coincides_of_const fun _ => rfl

/-- An operation that coincides may be followed by what coincides behind what it can give. -/
theorem Coincides.bind_of_run (hx : Coincides key x)
    (hf : ∀ a s s', run x s = (.ok a, s') → Coincides key (f a)) :
  Coincides key (x >>= f)
  := by
  intro s t hst
  obtain ⟨houtcome, htwins⟩ := hx s t hst
  cases hs : run x s with
  | mk outcome s' =>
      cases ht : run x t with
      | mk outcome' t' =>
          rw [hs, ht] at houtcome htwins
          obtain rfl : outcome = outcome' := houtcome
          cases outcome with
          | error e =>
              rw [run_bind_error hs, run_bind_error ht]
              exact ⟨rfl, htwins⟩
          | ok a =>
              rw [run_bind_ok hs, run_bind_ok ht]
              exact hf a s s' hs s' t' htwins

/-- Operations that coincide one after another coincide. -/
theorem Coincides.bind (hx : Coincides key x) (hf : ∀ a, Coincides key (f a)) :
  Coincides key (x >>= f)
  := hx.bind_of_run fun a _ _ _ => hf a

/-- An outcome that is settled is the same for both stores. -/
theorem coincides_settle {ε : Type} (wrap : ε → Fault) (r : Except ε α) :
  Coincides key (settle wrap r)
  := coincides_of_const (run_settle wrap r)

/-! ### Reading -/

/-- Stores that are alike for a session give the same settings. -/
theorem coincides_settings :
  Coincides key settings
  := by
  intro s t h
  rw [run_settings, run_settings, h.supply, h.settings]
  exact ⟨rfl, h⟩

/-- Stores that are alike for a session find the same conversation of it. -/
theorem coincides_find? (id : Text) :
  Coincides key (find? key id)
  := by
  intro s t h
  rw [run_find?_eq, run_find?_eq, Archive.find?_congr h.shelf id]
  exact ⟨rfl, h⟩

/-- Stores that are alike for a session list the same for it. -/
theorem coincides_all :
  Coincides key (all key)
  := by
  intro s t h
  rw [run_all_eq, run_all_eq, Archive.all_congr h.shallow.1 h.shallow.2 h.shelf]
  exact ⟨rfl, h⟩

/-- Stores that are alike for a session show the same segments of its conversations. -/
theorem coincides_context (id : Text) (n : Int) :
  Coincides key (context key id n)
  := (coincides_find? id).bind fun _ => coincides_pure _

/-- Stores that are alike for a session export the same text for it. -/
theorem coincides_exportText :
  Coincides key (exportText key)
  := coincides_all.bind fun _ => coincides_pure _

/-- The opening is read alike whether it was remembered or not. -/
theorem coincides_openingText :
  Coincides key openingText
  := by
  intro s t h
  obtain ⟨m, hs, hm⟩ := run_openingText_of_recalls h.recalls.1
  obtain ⟨n, ht, hn⟩ := run_openingText_of_recalls h.recalls.2
  rw [h.opening] at hm
  rw [hs, ht, h.opening]
  exact ⟨rfl, ⟨h.shelf, h.settings, rfl, h.shallow, hm, hn⟩, h.supply, h.stamps, h.ids⟩

/-! ### Writing -/

/-- Stores that are alike for a session have the same next stamp. -/
theorem coincides_nextStamp :
  Coincides key nextStamp
  := by
  intro s t h
  rw [run_nextStamp, run_nextStamp, h.supply, h.stamps]
  exact ⟨rfl, ⟨h.shelf, h.settings, h.opening, h.shallow, h.recalls⟩, rfl, rfl, h.ids⟩

/-- Stores that are alike for a session have the same next id. -/
theorem coincides_nextId :
  Coincides key nextId
  := by
  intro s t h
  rw [run_nextId, run_nextId, h.supply, h.ids]
  exact ⟨rfl, ⟨h.shelf, h.settings, h.opening, h.shallow, h.recalls⟩, rfl, h.stamps, rfl⟩

/-- Any conversation is stored alike. -/
theorem coincides_save (c : Conversation) :
  Coincides key (save c)
  := by
  cases hp : Archive.path c.session c.id with
  | error f =>
      have hrun (s : Store) : run (save c) s = (.error (.archive (.key f)), s) := by
        rw [save, run_bind_ok (run_get s), Archive.save, Archive.saveForm, hp]
        exact run_bind_error (run_settle _ _ _)
      exact coincides_of_const hrun
  | ok p =>
      -- On shallow disks nothing is in the way of the file, so both of them take it.
      have hrun {s : Store} {d : Disk} (hd : s.disk.store p (Record.write .indented c) = .ok d) :
          run (save c) s = (.ok ⟨⟩, { s with disk := d }) := by
        rw [save, run_bind_ok (run_get s), Archive.save_of_path hp, hd,
          run_bind_ok (run_settle _ _ _), run_set]
      intro s t h
      obtain ⟨d, hd, hdfiles, hdshallow⟩ :=
        h.shallow.1.exists_store hp (Record.write .indented c)
      obtain ⟨e, he, hefiles, heshallow⟩ :=
        h.shallow.2.exists_store hp (Record.write .indented c)
      rw [hrun hd, hrun he]
      refine ⟨rfl, h.of_disks ?_ ?_ ⟨hdshallow, heshallow⟩⟩
      · rw [Archive.shelf, Archive.shelf, hdfiles, hefiles]
        exact Entries.restrict_put_congr h.shelf _
      · have hne := (settingsPath_ne hp).1
        rw [Disk.file?, Disk.file?, hdfiles, hefiles, Entries.get?_put, Entries.get?_put,
          if_neg hne, if_neg hne]
        exact h.settings

/-- What is no text fails to be stored alike. -/
theorem coincides_saveBroken (session id : Text) :
  Coincides key (saveBroken session id : Action α)
  := by
  cases hp : Archive.path session id with
  | error f =>
      have hrun (s : Store) :
          run (saveBroken session id : Action α) s = (.error (.archive (.key f)), s) := by
        rw [saveBroken, hp]
        exact run_bind_error (run_settle _ _ _)
      exact coincides_of_const hrun
  | ok p =>
      obtain ⟨-, -, rfl⟩ := Archive.path_eq_ok_iff.mp hp
      -- On shallow disks nothing is in the way of the folder, so both of them take it.
      have hrun {s : Store} {d : Disk}
          (hd : s.disk.makeFolder (Archive.root ++ [session]) = .ok d) :
          run (saveBroken session id : Action α) s
            = (.error (.archive .brokenText), { s with disk := d }) := by
        rw [saveBroken, hp, run_bind_ok (run_settle _ _ _), run_bind_ok (run_get s),
          List.dropLast_concat, hd, run_bind_ok (run_settle _ _ _), run_bind_ok (run_set _ _)]
        rfl
      intro s t h
      obtain ⟨d, hd, hdfiles, hdshallow, -⟩ := h.shallow.1.exists_makeFolder session
      obtain ⟨e, he, hefiles, heshallow, -⟩ := h.shallow.2.exists_makeFolder session
      rw [hrun hd, hrun he]
      refine ⟨rfl, h.of_disks ?_ ?_ ⟨hdshallow, heshallow⟩⟩
      · rw [Archive.shelf, Archive.shelf, hdfiles, hefiles]
        exact h.shelf
      · rw [Disk.file?, Disk.file?, hdfiles, hefiles]
        exact h.settings

/-- Creating a conversation keeps two stores alike, for whichever session it is. -/
theorem coincides_create (session prompt : Text) (title : Option Text) :
  Coincides key (create session prompt title)
  := by
  apply coincides_nextStamp.bind
  intro now
  apply coincides_nextId.bind
  intro id
  apply (coincides_settle _ _).bind
  intro session
  exact (coincides_save _).bind fun _ => coincides_pure _

/-- Stores stay alike when a conversation that cannot be written is to be created. -/
theorem coincides_createBroken (session : Text) :
  Coincides key (createBroken session : Action α)
  := by
  apply coincides_nextStamp.bind
  intro now
  apply coincides_nextId.bind
  intro id
  apply (coincides_settle _ _).bind
  intro session
  apply coincides_saveBroken

/-- Revising a conversation of a session keeps two stores alike for it. -/
theorem coincides_revise? (id : Text) (r : Revision) :
  Coincides key (revise? key id r)
  := by
  apply (coincides_find? id).bind
  intro found
  cases found with
  | none => apply coincides_pure
  | some c =>
      apply coincides_nextStamp.bind
      intro now
      exact (coincides_save _).bind fun _ => coincides_pure _

/-- Stores stay alike when a revision that cannot be written is to be entered. -/
theorem coincides_reviseBroken? (id : Text) :
  Coincides key (reviseBroken? key id : Action (Option α))
  := by
  apply (coincides_find? id).bind
  intro found
  cases found with
  | none => apply coincides_pure
  | some c =>
      apply coincides_nextStamp.bind
      intro now
      apply coincides_saveBroken

/-! ### Taking away -/

/-- Deleting a conversation of a session keeps two stores alike for it. -/
theorem coincides_delete (id : Text) :
  Coincides key (delete key id)
  := by
  cases hp : Archive.path key id with
  | error f => exact coincides_of_const (run_delete_error hp)
  | ok p =>
      intro s t h
      have hunder : Archive.isUnder key p = true := by simp [Archive.isUnder_path hp]
      have hfile : s.disk.hasFile p = t.disk.hasFile p := by
        rw [Disk.hasFile, Disk.hasFile, ← Archive.file?_of_isUnder hunder, h.shelf,
          Archive.file?_of_isUnder hunder]
      rw [run_delete_ok hp, run_delete_ok hp, hfile]
      split_ifs
      · refine ⟨rfl, h.of_disks ?_ ?_ ⟨h.shallow.1.remove p, h.shallow.2.remove p⟩⟩
        · rw [Archive.shelf_remove, Archive.shelf_remove, h.shelf]
        · have hne := (settingsPath_ne hp).1
          rw [Disk.file?_remove, Disk.file?_remove, if_neg hne, if_neg hne, h.settings]
      · exact ⟨rfl, h⟩

/-- Deleting several conversations of a session keeps two stores alike for it. -/
theorem coincides_deleteAll (cs : List Conversation) :
  Coincides key (deleteAll key cs)
  := by
  induction cs with
  | nil => apply coincides_pure
  | cons c cs ih =>
      exact (coincides_delete c.id).bind fun _ => ih.bind fun _ => coincides_pure _

/-- Clearing a session keeps two stores alike for it. -/
theorem coincides_clear :
  Coincides key (clear key)
  := coincides_all.bind fun cs => coincides_deleteAll cs

end Store

end BranchingStory
