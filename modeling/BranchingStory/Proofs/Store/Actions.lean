import BranchingStory.Proofs.Operation
import BranchingStory.Proofs.Store.Archive
import BranchingStory.Store.Basic

/-!
# Operations of the store

What the operations that a story needs give and how they leave the store: the settings and the
opening are read without changing what they are, and a revision of a conversation that is held
puts the revised conversation in its place.
-/

namespace BranchingStory

namespace Store

open Operation

/-! ### Settings -/

/-- The settings that a file with settings, if there is one, describes. -/
def settingsOf (room : Json.Room) : Option Text → Except Fault Settings
  | none => .ok Settings.defaults
  | some t => (Settings.read room (Text.unifyNewlines t)).mapError .settings

/-- An outcome is settled without a look at the store. -/
theorem run_settle {ε α : Type} (wrap : ε → Fault) (r : Except ε α) (s : Store) :
  run (settle wrap r) s = (r.mapError wrap, s)
  := by
  cases r <;> rfl

/-- The settings are those of their file, and reading them leaves the store. -/
theorem run_settings (s : Store) :
  run settings s = (settingsOf s.supply.reading (s.disk.file? settingsPath), s)
  := by
  rw [settings, run_bind_ok (run_get s)]
  cases h : s.disk.file? settingsPath with
  | none =>
      have hf : s.disk.hasFile settingsPath = false := by simp [Disk.hasFile, h]
      rw [if_neg (by simp [hf]), run_pure]
      rfl
  | some t =>
      have hf : s.disk.hasFile settingsPath = true := by simp [Disk.hasFile, h]
      have hr : s.disk.read settingsPath = .ok (Text.unifyNewlines t) := by
        simp only [Disk.read, h]
      rw [if_pos hf, hr, run_bind_ok (run_settle _ _ _), run_settle]
      rfl

/-- The settings are a matter of their file and of the room for reading. -/
theorem settings_congr {s s' : Store} (hs : s'.supply = s.supply)
    (h : s'.disk.file? settingsPath = s.disk.file? settingsPath) :
  (run settings s').1 = (run settings s).1
  := by
  rw [run_settings, run_settings, hs, h]

/-! ### The opening -/

/-- A store whose opening is a text that is remembered, if one is. -/
structure Opens (s : Store) (t : Text) : Prop where
  opening : s.opening = .text t
  remembered : s.remembered = none ∨ s.remembered = some (Text.unifyNewlines t)

/-- The opening is read with its newlines unified, and remembered. -/
theorem run_openingText {s : Store} {t : Text} (h : s.Opens t) :
  run openingText s
    = (.ok (Text.unifyNewlines t), { s with remembered := some (Text.unifyNewlines t) })
  := by
  rw [openingText, run_bind_ok (run_get s)]
  obtain hr | hr := h.remembered
  · have ho : s.opening.read = .ok (Text.unifyNewlines t) := by
      rw [h.opening]
      rfl
    rw [hr]
    dsimp only
    rw [ho, run_bind_ok (run_settle _ _ _), run_bind_ok (run_set _ _), run_pure]
  · rw [hr]
    dsimp only
    rw [run_pure, ← hr]

/-! ### Conversations -/

/-- A store that holds a conversation. -/
def Holds (s : Store) (c : Conversation) : Prop :=
  ∃ p, Archive.Holds s.disk p c

variable {s : Store} {c : Conversation}

/-- The settings are neither in the place of a conversation nor around it. -/
theorem settingsPath_ne {session id : Text} {p : Path} (h : Archive.path session id = .ok p) :
  p ≠ settingsPath ∧ settingsPath ∉ Disk.around p
  := by
  obtain ⟨-, -, rfl⟩ := Archive.path_eq_ok_iff.mp h
  constructor
  · intro he
    have hl := congrArg List.length he
    simp [Archive.root, settingsPath] at hl
  · intro hm
    have hhead : ∀ q ∈ Disk.around (Archive.root ++ [session] ++ [id ++ Archive.fileEnding]),
        q = [] ∨ q.head? = some ("sessions" : Text) := by
      simp [Disk.around, Archive.root, List.range_succ]
    obtain he | he := hhead _ hm
    · cases he
    · exact absurd he (by decide)

/-- The next stamp is given out once. -/
theorem run_nextStamp (s : Store) :
  run nextStamp s = (.ok (s.supply.stamp (s.stamps + 1)), { s with stamps := s.stamps + 1 })
  := rfl

/-- The next id is given out once. -/
theorem run_nextId (s : Store) :
  run nextId s = (.ok (s.supply.id (s.ids + 1)), { s with ids := s.ids + 1 })
  := rfl

/-- A conversation is found on the disk, and the store stays. -/
theorem run_find?_eq (session id : Text) (s : Store) :
  run (find? session id) s = ((Archive.find? s.disk session id).mapError .archive, s)
  := by
  rw [find?, run_bind_ok (run_get s), run_settle]

/-- The conversations of a session are listed from the disk, and the store stays. -/
theorem run_all_eq (session : Text) (s : Store) :
  run (all session) s = ((Archive.all s.disk session).mapError .archive, s)
  := by
  rw [all, run_bind_ok (run_get s), run_settle]

/-- What is computed from what was read. -/
theorem run_bind_pure {α β : Type} {x : Action α} {outcome : Except Fault α}
    (h : run x s = (outcome, s)) (f : α → β) :
  run (do return f (← x)) s = (outcome.map f, s)
  := by
  cases outcome with
  | error e => exact run_bind_error h
  | ok a => exact run_bind_ok h

/-- A conversation that the store holds is found. -/
theorem run_find? (h : s.Holds c) (hs : c.IsStorable) :
  run (find? c.session c.id) s = (.ok (some c), s)
  := by
  obtain ⟨p, hp⟩ := h
  rw [find?, run_bind_ok (run_get s), hp.find? hs, run_settle]
  rfl

/-- Deleting a conversation takes its file away and says whether it was there. -/
theorem run_delete_ok {session id : Text} {p : Path} (hp : Archive.path session id = .ok p)
    (s : Store) :
  run (delete session id) s
    = (.ok (s.disk.hasFile p),
        if s.disk.hasFile p then { s with disk := s.disk.remove p } else s)
  := by
  have hremove : Archive.remove? s.disk session id
      = .ok (if s.disk.hasFile p then some (s.disk.remove p) else none) := by
    rw [Archive.remove?, hp]
    rfl
  rw [delete, run_bind_ok (run_get s), hremove, run_bind_ok (run_settle _ _ _)]
  cases s.disk.hasFile p with
  | false => rfl
  | true => rfl

theorem run_delete_error {session id : Text} {f : KeyFault}
    (hp : Archive.path session id = .error f) (s : Store) :
  run (delete session id) s = (.error (.archive (.key f)), s)
  := by
  rw [delete, run_bind_ok (run_get s), Archive.remove?, hp]
  exact run_bind_error (run_settle _ _ _)

/-- What a store keeps when a conversation is stored in it. -/
structure Keeps (s s' : Store) : Prop where
  supply : s'.supply = s.supply
  opening : s'.opening = s.opening
  remembered : s'.remembered = s.remembered
  settings : s'.disk.file? settingsPath = s.disk.file? settingsPath

/-- Storing another version of a conversation that is held puts it in its place. -/
theorem Holds.run_save (h : s.Holds c) {d : Conversation} (hs : d.session = c.session)
    (hi : d.id = c.id) :
  ∃ s', run (save d) s = (.ok ⟨⟩, s') ∧ s'.Holds d ∧ s.Keeps s'
  := by
  obtain ⟨p, hp⟩ := h
  obtain ⟨e, he, hheld, hother⟩ := hp.save hs hi
  refine ⟨{ s with disk := e }, ?_, ⟨p, hheld⟩,
    ⟨rfl, rfl, rfl, hother _ (settingsPath_ne hp.path).1⟩⟩
  rw [save, run_bind_ok (run_get s), he, run_bind_ok (run_settle _ _ _), run_set]

/-- A revision puts the revised conversation in its place. -/
theorem Holds.run_revise? (h : s.Holds c) (hs : c.IsStorable) (r : Revision) :
  ∃ now s', run (revise? c.session c.id r) s = (.ok (some (c.revise r now)), s')
    ∧ s'.Holds (c.revise r now) ∧ s.Keeps s'
  := by
  have hstamped : Holds { s with stamps := s.stamps + 1 } c := h
  obtain ⟨s', hsave, hheld, hkeeps⟩ := hstamped.run_save
    (d := c.revise r (s.supply.stamp (s.stamps + 1))) rfl rfl
  refine ⟨_, s', ?_, hheld,
    ⟨hkeeps.supply, hkeeps.opening, hkeeps.remembered, hkeeps.settings⟩⟩
  rw [revise?, run_bind_ok (run_find? h hs)]
  dsimp only
  rw [run_bind_ok (run_nextStamp s), run_bind_ok hsave, run_pure]

/-- A conversation that was stored is held. -/
theorem holds_of_save {s' : Store} {u : Unit} (h : run (save c) s = (.ok u, s')) :
  s'.Holds c ∧ s.Keeps s'
  := by
  rw [save, run_bind_ok (run_get s)] at h
  cases hd : Archive.save s.disk c with
  | error f =>
      rw [hd, run_bind_error (run_settle _ _ _)] at h
      cases congrArg Prod.fst h
  | ok e =>
      rw [hd, run_bind_ok (run_settle _ _ _), run_set] at h
      obtain rfl := congrArg Prod.snd h
      obtain ⟨p, hheld, hother⟩ := Archive.holds_of_save hd
      exact ⟨⟨p, hheld⟩, rfl, rfl, rfl, hother _ (settingsPath_ne hheld.path).1⟩

/-- A conversation that was created is new, and held. -/
theorem holds_of_create {session prompt : Text} {title : Option Text} {s' : Store}
    (h : run (create session prompt title) s = (.ok c, s')) :
  s'.Holds c ∧ s.Keeps s' ∧ ∃ id title now, c = .new id title prompt session now
  := by
  rw [create, run_bind_ok (run_nextStamp s), run_bind_ok (run_nextId _), Key.check] at h
  split_ifs at h with hkey
  · rw [run_bind_ok (run_settle _ _ _)] at h
    rw [run_bind] at h
    generalize hsaved : run (save _) _ = saved at h
    obtain ⟨outcome, s₂⟩ := saved
    cases outcome with
    | error f => cases congrArg Prod.fst h
    | ok u =>
        obtain ⟨hheld, hkeeps⟩ := holds_of_save hsaved
        obtain rfl := congrArg Prod.snd h
        obtain rfl := Except.ok.inj (congrArg Prod.fst h)
        exact ⟨hheld, ⟨hkeeps.supply, hkeeps.opening, hkeeps.remembered, hkeeps.settings⟩, _, _, _,
          rfl⟩
  · rw [run_bind_error (run_settle _ _ _)] at h
    cases congrArg Prod.fst h

end Store

end BranchingStory
