import BranchingStory.Proofs.Operation
import BranchingStory.Proofs.Record.ReadBack
import BranchingStory.Store.Archive

/-!
# Stored conversations

Where a file was written once it can be written again, and other files stay as they are.  A
conversation that is held in the archive is found there, and storing another version of it
puts that in its place.
-/

namespace BranchingStory

/-! ### Places of files -/

namespace Disk

/-- The disk with a file put on it. -/
def putFile (d : Disk) (p : Path) (t : Text) : Disk :=
  { d with files := Entries.put p t d.files }

/-- A path that a file can be written to: no folder stands there, it does not lead on from a
file, and its folder is there. -/
structure IsPlace (d : Disk) (p : Path) : Prop where
  noFolder : d.hasFolder p = false
  noFileAbove : d.leadsThroughFile p = false
  folder : d.hasFolder p.dropLast = true

variable {d : Disk} {p : Path}

/-- A file that was written is read as it was written, and all others as before. -/
theorem file?_putFile (d : Disk) (p q : Path) (t : Text) :
  (d.putFile p t).file? q = if p = q then some t else d.file? q
  := Entries.get?_put p q t d.files

/-- A file that is written to a place is put there. -/
theorem write_eq_ok_iff {t : Text} {e : Disk} :
  d.write p t = .ok e ↔ d.IsPlace p ∧ e = d.putFile p t
  := by
  unfold write
  constructor
  · intro h
    split_ifs at h with h₁ h₂ h₃
    exact ⟨⟨by simpa using h₁, by simpa using h₂, h₃⟩, (Except.ok.inj h).symm⟩
  · rintro ⟨⟨h₁, h₂, h₃⟩, rfl⟩
    rw [if_neg (by simp [h₁]), if_neg (by simp [h₂]), if_pos h₃]
    rfl

/-- The folders around a place have shorter paths. -/
theorem length_of_mem_around {q : Path} (h : q ∈ around p) :
  q.length < p.length
  := by
  obtain ⟨n, hn, rfl⟩ := List.mem_map.mp h
  have hn := List.mem_range.mp hn
  rw [List.length_take]
  omega

/-- No path around a path is that path. -/
theorem ne_of_mem_around {q : Path} (h : q ∈ around p) :
  p ≠ q
  := by
  rintro rfl
  exact Nat.lt_irrefl _ (length_of_mem_around h)

/-- A place stays a place when a file is put there. -/
theorem IsPlace.putFile (h : d.IsPlace p) (t : Text) :
  (d.putFile p t).IsPlace p
  := by
  refine ⟨h.noFolder, ?_, h.folder⟩
  have hn := h.noFileAbove
  rw [leadsThroughFile, List.any_eq_false] at hn ⊢
  intro q hq
  rw [hasFile, file?_putFile, if_neg (ne_of_mem_around hq)]
  apply hn q hq

/-- A place stays a place when a file is put that it does not lead on from. -/
theorem IsPlace.putFile_of_notMem (h : d.IsPlace p) {q : Path} (hq : q ∉ around p) (t : Text) :
  (d.putFile q t).IsPlace p
  := by
  refine ⟨h.noFolder, ?_, h.folder⟩
  have hn := h.noFileAbove
  rw [leadsThroughFile, List.any_eq_false] at hn ⊢
  intro f hf
  rw [hasFile, file?_putFile, if_neg (by rintro rfl; exact hq hf)]
  apply hn f hf

/-- A file that was removed is gone, and all others are as before. -/
theorem file?_remove (d : Disk) (p q : Path) :
  (d.remove p).file? q = if p = q then none else d.file? q
  := Entries.get?_erase p q d.files

/-- A place stays a place when a file is taken away. -/
theorem IsPlace.of_remove (h : d.IsPlace p) (q : Path) :
  (d.remove q).IsPlace p
  := by
  refine ⟨h.noFolder, ?_, h.folder⟩
  have hn := h.noFileAbove
  rw [leadsThroughFile, List.any_eq_false] at hn ⊢
  intro f hf
  rw [hasFile, file?_remove]
  split_ifs
  · simp
  · apply hn f hf

/-- There is a folder at the root and wherever one was made. -/
theorem hasFolder_iff :
  d.hasFolder p = true ↔ p = [] ∨ p ∈ d.folders
  := by
  simp [hasFolder]

/-- A place stays a place when folders are made of which it is none. -/
theorem IsPlace.of_makeFolder (h : d.IsPlace p) {q : Path} {e : Disk} (he : d.makeFolder q = .ok e)
    (hq : p ∉ around q ++ [q]) :
  e.IsPlace p
  := by
  unfold Disk.makeFolder at he
  split_ifs at he
  · rwa [← Except.ok.inj he]
  · obtain rfl := Except.ok.inj he
    refine ⟨?_, h.noFileAbove, ?_⟩
    · apply Bool.eq_false_iff.mpr
      intro hf
      have hn := h.noFolder
      rw [hasFolder_iff, List.mem_append, ← or_assoc, ← hasFolder_iff, hn] at hf
      obtain hf | hf := hf
      · cases hf
      · exact hq (List.mem_of_mem_filter hf)
    · have hf := h.folder
      rw [hasFolder_iff] at hf ⊢
      exact hf.imp_right (List.mem_append_left _)

/-- A place stays a place when a file is stored that it does not lead on from, if it is none of
the folders around the file. -/
theorem IsPlace.of_store (h : d.IsPlace p) {q : Path} {t : Text} {e : Disk}
    (he : d.store q t = .ok e) (hq : q ∉ around p) (hp : p ∉ around q.dropLast ++ [q.dropLast]) :
  e.IsPlace p
  := by
  unfold Disk.store at he
  cases hm : d.makeFolder q.dropLast with
  | error f =>
      rw [hm] at he
      cases he
  | ok m =>
      rw [hm] at he
      obtain ⟨-, rfl⟩ := write_eq_ok_iff.mp he
      exact (h.of_makeFolder hm hp).putFile_of_notMem hq t

/-- A file is stored at a place without making folders. -/
theorem IsPlace.store (h : d.IsPlace p) (t : Text) :
  d.store p t = .ok (d.putFile p t)
  := by
  have hf : d.makeFolder p.dropLast = .ok d := by
    rw [makeFolder, if_pos h.folder]
  rw [Disk.store, hf]
  apply write_eq_ok_iff.mpr ⟨h, rfl⟩

/-- Making a folder leaves all files. -/
theorem makeFolder_files {e : Disk} (h : d.makeFolder p = .ok e) :
  e.files = d.files
  := by
  unfold makeFolder at h
  split_ifs at h
  · rw [← Except.ok.inj h]
  · rw [← Except.ok.inj h]

/-- Where a file was stored is a place; the file stands there and all others stay. -/
theorem isPlace_of_store {t : Text} {e : Disk} (h : d.store p t = .ok e) :
  e.IsPlace p ∧ ∀ q, e.file? q = if p = q then some t else d.file? q
  := by
  unfold Disk.store at h
  cases hm : d.makeFolder p.dropLast with
  | error f =>
      rw [hm] at h
      cases h
  | ok m =>
      rw [hm] at h
      obtain ⟨hp, rfl⟩ := write_eq_ok_iff.mp h
      refine ⟨hp.putFile t, fun q => ?_⟩
      rw [file?_putFile, file?, file?, makeFolder_files hm]

end Disk

/-! ### Conversations in the archive -/

namespace Archive

/-- A conversation that is stored in the archive, in a place where it can be stored again. -/
structure Holds (d : Disk) (p : Path) (c : Conversation) : Prop where
  path : Archive.path c.session c.id = .ok p
  place : d.IsPlace p
  file : d.file? p = some (Record.write .indented c)

variable {d : Disk} {p : Path} {c : Conversation}

/-- The file of a conversation is named by its key in the folder of the session's key. -/
theorem path_eq_ok_iff {session id : Text} :
  path session id = .ok p
    ↔ Key.isKey session = true ∧ Key.isKey id = true
        ∧ p = root ++ [session] ++ [id ++ fileEnding]
  := by
  by_cases hs : Key.isKey session = true
  · by_cases hi : Key.isKey id = true
    · have h : path session id = .ok (root ++ [session] ++ [id ++ fileEnding]) := by
        simp only [path, folder, Key.check, if_pos hs, if_pos hi]
        rfl
      rw [h]
      simp [hs, hi, eq_comm]
    · have h : path session id = .error ⟨Key.conversationRole, id⟩ := by
        simp only [path, folder, Key.check, if_pos hs, if_neg hi]
        rfl
      rw [h]
      simp [hi]
  · have h : path session id = .error ⟨Key.sessionRole, session⟩ := by
      simp only [path, folder, Key.check, if_neg hs]
      rfl
    rw [h]
    simp [hs]

/-- Different sessions or ids lead to different files. -/
theorem path_inj {session id session' id' : Text} (h : path session id = .ok p)
    (h' : path session' id' = .ok p) :
  session = session' ∧ id = id'
  := by
  obtain ⟨-, -, rfl⟩ := path_eq_ok_iff.mp h
  obtain ⟨-, -, he⟩ := path_eq_ok_iff.mp h'
  simpa [root] using he

/-- A conversation is stored in the folder of its session, below the root of all sessions. -/
theorem length_path {session id : Text} (h : path session id = .ok p) :
  p.length = 3
  := by
  obtain ⟨-, -, rfl⟩ := path_eq_ok_iff.mp h
  rfl

/-- The files of conversations lie in no way of one another. -/
theorem notMem_around {session id session' id' : Text} {q : Path} (h : path session id = .ok p)
    (h' : path session' id' = .ok q) :
  q ∉ Disk.around p ∧ p ∉ Disk.around q.dropLast ++ [q.dropLast]
  := by
  have hp := length_path h
  have hq := length_path h'
  constructor
  · intro hm
    have hl := Disk.length_of_mem_around hm
    omega
  · intro hm
    have hdrop : q.dropLast.length = q.length - 1 := List.length_dropLast
    rw [List.mem_append, List.mem_singleton] at hm
    obtain hm | rfl := hm
    · have hl := Disk.length_of_mem_around hm
      omega
    · omega

/-- A conversation is saved where its keys lead. -/
theorem save_of_path (h : path c.session c.id = .ok p) :
  save d c = (d.store p (Record.write .indented c)).mapError .disk
  := by
  rw [save, saveForm, h]
  rfl

/-- Where a conversation was stored. -/
theorem store_of_save {e : Disk} (h : save d c = .ok e) :
  ∃ p, path c.session c.id = .ok p ∧ d.store p (Record.write .indented c) = .ok e
  := by
  cases hp : path c.session c.id with
  | error f =>
      rw [save, saveForm, hp] at h
      cases h
  | ok p =>
      rw [save_of_path hp] at h
      cases hst : d.store p (Record.write .indented c) with
      | error f =>
          rw [hst] at h
          cases h
      | ok m =>
          rw [hst] at h
          obtain rfl := Except.ok.inj h
          exact ⟨p, rfl, hst⟩

/-- A conversation that was stored is held, and other files stay. -/
theorem holds_of_save {e : Disk} (h : save d c = .ok e) :
  ∃ p, Holds e p c ∧ ∀ q, p ≠ q → e.file? q = d.file? q
  := by
  obtain ⟨p, hp, hst⟩ := store_of_save h
  obtain ⟨hplace, hfile⟩ := Disk.isPlace_of_store hst
  use p
  refine ⟨⟨hp, hplace, ?_⟩, ?_⟩
  · rw [hfile, if_pos rfl]
  · intro q hq
    rw [hfile, if_neg hq]

/-- The places of conversations stay places when a conversation is stored. -/
theorem isPlace_of_save {e : Disk} (h : save d c = .ok e) {session id : Text} {q : Path}
    (hq : path session id = .ok q) (hplace : d.IsPlace q) :
  e.IsPlace q
  := by
  obtain ⟨p, hp, hst⟩ := store_of_save h
  obtain ⟨hnot, hfolders⟩ := notMem_around hq hp
  exact hplace.of_store hst hnot hfolders

/-- A file is read as a conversation when its text is. -/
theorem readAt_eq_ok_iff :
  readAt d p = .ok c
    ↔ ∃ t, d.file? p = some t ∧ Record.read (Text.unifyNewlines t) = .ok c
  := by
  rw [readAt, Operation.bind_eq_ok_iff]
  simp only [Operation.mapError_eq_ok_iff, Disk.read]
  cases d.file? p with
  | none =>
      simp only [reduceCtorEq, false_and, exists_false, iff_false, not_exists, not_and]
      intro t ht
      split_ifs at ht
  | some t => simp

/-- What is read was there. -/
theorem hasFile_of_readAt (h : readAt d p = .ok c) :
  d.hasFile p = true
  := by
  obtain ⟨t, ht, -⟩ := readAt_eq_ok_iff.mp h
  rw [Disk.hasFile, ht]
  rfl

/-- What is found is read where the keys lead. -/
theorem find?_eq_some {session id : Text} :
  find? d session id = .ok (some c)
    ↔ ∃ p, path session id = .ok p ∧ readAt d p = .ok c
  := by
  rw [find?, Operation.bind_eq_ok_iff]
  simp only [Operation.mapError_eq_ok_iff]
  apply exists_congr
  intro p
  apply and_congr_right
  intro _
  split_ifs with hf
  · rw [Operation.bind_eq_ok_iff]
    constructor
    · rintro ⟨a, ha, he⟩
      rw [ha]
      exact congrArg Except.ok (Option.some.inj (Except.ok.inj he))
    · intro hc
      exact ⟨c, hc, rfl⟩
  · constructor
    · intro he
      cases he
    · intro hc
      exact absurd (hasFile_of_readAt hc) hf

/-- The file of a conversation is read as the conversation. -/
theorem readAt_of_file? (h : d.file? p = some (Record.write .indented c)) (hs : c.IsStorable) :
  readAt d p = .ok c
  := by
  have hu : Text.unifyNewlines (Record.write .indented c) = Record.write .indented c :=
    Json.unifyNewlines_write Json.Layout.indented_isGapped c.toJson_flat.numberFree
  have hd : d.read p = .ok (Record.write .indented c) := by
    simp only [Disk.read, h, hu]
  rw [readAt, hd]
  have hr : (Record.read (Record.write .indented c) : Checked Conversation) = .ok c :=
    Conversation.read_write hs
  simp only [Except.mapError, bind, Except.bind, hr]

/-- A conversation that is held is found. -/
theorem Holds.find? (h : Holds d p c) (hs : c.IsStorable) :
  find? d c.session c.id = .ok (some c)
  := by
  have hread : readAt d p = .ok c := readAt_of_file? h.file hs
  have hf : d.hasFile p = true := by
    rw [Disk.hasFile, h.file]
    rfl
  simp only [Archive.find?, h.path, Except.mapError, bind, Except.bind, hf, if_true, hread]
  rfl

/-- Another version of a conversation takes its place. -/
theorem Holds.save (h : Holds d p c) {c' : Conversation} (hs : c'.session = c.session)
    (hi : c'.id = c.id) :
  ∃ e, save d c' = .ok e ∧ Holds e p c' ∧ ∀ q, p ≠ q → e.file? q = d.file? q
  := by
  have hp : Archive.path c'.session c'.id = .ok p := by
    rw [hs, hi, h.path]
  refine ⟨d.putFile p (Record.write .indented c'), ?_, ⟨hp, h.place.putFile _, ?_⟩, ?_⟩
  · rw [save_of_path hp, h.place.store]
    rfl
  · rw [Disk.file?_putFile, if_pos rfl]
  · intro q hq
    rw [Disk.file?_putFile, if_neg hq]

theorem mem_of_mapM {α β ε : Type} {f : α → Except ε β} {xs : List α} {ys : List β}
    (h : xs.mapM f = .ok ys) {y : β} (hy : y ∈ ys) :
  ∃ x ∈ xs, f x = .ok y
  := by
  induction xs generalizing ys with
  | nil =>
      obtain rfl : ys = [] := (Except.ok.inj h).symm
      cases hy
  | cons x xs ih =>
      rw [List.mapM_cons, Operation.bind_eq_ok_iff] at h
      obtain ⟨z, hz, h⟩ := h
      rw [Operation.bind_eq_ok_iff] at h
      obtain ⟨zs, hzs, h⟩ := h
      obtain rfl : ys = z :: zs := (Except.ok.inj h).symm
      obtain rfl | hy := List.mem_cons.mp hy
      · exact ⟨x, List.mem_cons_self, hz⟩
      · obtain ⟨w, hw, hfw⟩ := ih hzs hy
        exact ⟨w, List.mem_cons_of_mem _ hw, hfw⟩

theorem exists_of_mapM_error {α β ε : Type} {f : α → Except ε β} {xs : List α} {e : ε}
    (h : xs.mapM f = .error e) :
  ∃ x ∈ xs, f x = .error e
  := by
  induction xs with
  | nil => cases h
  | cons x xs ih =>
      rw [List.mapM_cons] at h
      cases hx : f x with
      | error e' =>
          rw [hx] at h
          obtain rfl : e' = e := Except.error.inj h
          exact ⟨x, List.mem_cons_self, hx⟩
      | ok y =>
          cases hxs : xs.mapM f with
          | error e' =>
              rw [hx, hxs] at h
              obtain rfl : e' = e := Except.error.inj h
              obtain ⟨z, hz, he⟩ := ih hxs
              exact ⟨z, List.mem_cons_of_mem _ hz, he⟩
          | ok ys =>
              rw [hx, hxs] at h
              cases h

theorem exists_of_mapM {α β ε : Type} {f : α → Except ε β} {xs : List α} {ys : List β}
    (h : xs.mapM f = .ok ys) {x : α} (hx : x ∈ xs) :
  ∃ y ∈ ys, f x = .ok y
  := by
  induction xs generalizing ys with
  | nil => cases hx
  | cons z xs ih =>
      rw [List.mapM_cons, Operation.bind_eq_ok_iff] at h
      obtain ⟨y, hy, h⟩ := h
      rw [Operation.bind_eq_ok_iff] at h
      obtain ⟨zs, hzs, h⟩ := h
      obtain rfl : ys = y :: zs := (Except.ok.inj h).symm
      obtain rfl | hx := List.mem_cons.mp hx
      · exact ⟨y, List.mem_cons_self, hy⟩
      · obtain ⟨w, hw, hfw⟩ := ih hzs hx
        exact ⟨w, List.mem_cons_of_mem _ hw, hfw⟩

/-- Outcomes are the same throughout when they are the same for every item. -/
theorem mapM_congr {α β ε : Type} {f g : α → Except ε β} {xs : List α}
    (h : ∀ x ∈ xs, f x = g x) :
  xs.mapM f = xs.mapM g
  := by
  induction xs with
  | nil => rfl
  | cons x xs ih =>
      rw [List.mapM_cons, List.mapM_cons, h x List.mem_cons_self,
        ih fun y hy => h y (List.mem_cons_of_mem _ hy)]

/-- The conversations of a session are those of the files in its folder. -/
theorem mem_of_all {session : Text} {cs : List Conversation} (h : all d session = .ok cs) :
  Key.isKey session = true
    ∧ ∀ c ∈ cs, ∃ p ∈ filesIn d (root ++ [session]), readAt d p = .ok c
  := by
  rw [all, Operation.bind_eq_ok_iff] at h
  obtain ⟨f, hf, h⟩ := h
  rw [Operation.bind_eq_ok_iff] at h
  obtain ⟨read, hread, h⟩ := h
  rw [Operation.mapError_eq_ok_iff, folder, Key.check] at hf
  split_ifs at hf with hkey
  · obtain rfl := Except.ok.inj hf
    obtain rfl := Except.ok.inj h
    exact ⟨hkey, fun c hc => mem_of_mapM hread (List.mem_mergeSort.mp hc)⟩
  · cases hf

end Archive

end BranchingStory
