import BranchingStory.Proofs.Record.Lossless

/-!
# The files of a session

What is stored, read and taken away for a session depends on the files in its folder and changes
no others: its shelf.  Two disks with the same shelf of a session give the same for it, and stay so
when the same is done to both.
-/

namespace BranchingStory

/-! ### Disks with folders of sessions -/

namespace Disk

/-- A disk whose files are that of the settings and others in folders of sessions, and whose
folders lie above them. -/
structure IsShallow (d : Disk) : Prop where
  files : ∀ p, d.hasFile p = true → p = Store.settingsPath ∨ p.length = 3
  folders : ∀ p ∈ d.folders, p.length ≤ 2

variable {d : Disk} {p : Path}

/-- In a shallow disk no file but that of the settings lies anywhere but in the folder of a session.
-/
theorem IsShallow.hasFile (h : d.IsShallow) (hs : p ≠ Store.settingsPath) (hp : p.length ≠ 3) :
  d.hasFile p = false
  := by
  apply Bool.eq_false_iff.mpr
  intro hf
  obtain rfl | hlength := h.files p hf
  · exact hs rfl
  · exact hp hlength

theorem IsShallow.leadsThroughFile (h : d.IsShallow) (hs : Store.settingsPath ∉ around p)
    (hp : p.length ≤ 3) :
  d.leadsThroughFile p = false
  := by
  rw [Disk.leadsThroughFile, List.any_eq_false]
  intro q hq
  have hlength := length_of_mem_around hq
  rw [h.hasFile (by rintro rfl; exact hs hq) (by omega)]
  simp

/-- The folder of a session can be made. -/
theorem IsShallow.exists_makeFolder (h : d.IsShallow) (session : Text) :
  ∃ e, d.makeFolder (Archive.root ++ [session]) = .ok e ∧ e.files = d.files ∧ e.IsShallow
    ∧ e.hasFolder (Archive.root ++ [session]) = true
  := by
  have hsettings : Archive.root ++ [session] ≠ Store.settingsPath
      ∧ Store.settingsPath ∉ around (Archive.root ++ [session]) := by
    constructor
    · intro he
      cases congrArg List.length he
    · simp [around, Archive.root, Store.settingsPath, List.range_succ]
  unfold makeFolder
  split_ifs with h₁ h₂ h₃
  · exact ⟨d, rfl, rfl, h, h₁⟩
  · rw [h.hasFile hsettings.1 (by simp [Archive.root])] at h₂
    cases h₂
  · rw [h.leadsThroughFile hsettings.2 (by simp [Archive.root])] at h₃
    cases h₃
  · refine ⟨_, rfl, rfl, ⟨h.files, ?_⟩, ?_⟩
    · intro q hq
      rw [List.mem_append, List.mem_filter, List.mem_append, List.mem_singleton] at hq
      obtain hq | ⟨hq | rfl, -⟩ := hq
      · apply h.folders q hq
      · have hlength := length_of_mem_around hq
        simp only [Archive.root, List.singleton_append, List.length_cons, List.length_nil] at hlength
        omega
      · simp [Archive.root]
    · rw [hasFolder_iff, List.mem_append, List.mem_filter]
      exact Or.inr (Or.inr ⟨by simp, by simpa using h₁⟩)

/-- The file of a conversation can be stored. -/
theorem IsShallow.exists_store (h : d.IsShallow) {session id : Text}
    (hp : Archive.path session id = .ok p) (t : Text) :
  ∃ e, d.store p t = .ok e ∧ e.files = Entries.put p t d.files ∧ e.IsShallow
  := by
  have hlength := Archive.length_path hp
  have hdrop : p.dropLast = Archive.root ++ [session] := by
    obtain ⟨-, -, rfl⟩ := Archive.path_eq_ok_iff.mp hp
    rfl
  obtain ⟨m, hm, hfiles, hshallow, hfolder⟩ := h.exists_makeFolder session
  rw [← hdrop] at hm hfolder
  have hplace : m.IsPlace p := by
    refine ⟨?_, hshallow.leadsThroughFile (Store.settingsPath_ne hp).2 (by omega), hfolder⟩
    apply Bool.eq_false_iff.mpr
    rw [Ne, hasFolder_iff, not_or]
    constructor
    · rintro rfl
      cases hlength
    · intro hmem
      have hshort := hshallow.folders p hmem
      omega
  refine ⟨m.putFile p t, ?_, by rw [putFile, hfiles], ?_, hshallow.folders⟩
  · rw [store, hm]
    apply write_eq_ok_iff.mpr ⟨hplace, rfl⟩
  · intro q hq
    rw [Disk.hasFile, file?_putFile] at hq
    split_ifs at hq with hpq
    · right
      rw [← hpq, hlength]
    · apply hshallow.files q hq

/-- A shallow disk stays shallow when a file is removed. -/
theorem IsShallow.remove (h : d.IsShallow) (p : Path) :
  (d.remove p).IsShallow
  := by
  refine ⟨fun q hq => ?_, h.folders⟩
  rw [Disk.hasFile, file?_remove] at hq
  split_ifs at hq
  · cases hq
  · apply h.files q hq

end Disk

namespace Archive

variable {d d' e e' : Disk} {p : Path} {c : Conversation} {session id : Text}

/-! ### Files in their places -/

/-- A disk where every conversation is in its place: each file but that of the settings that is
read as a conversation is where the names of the conversation lead. -/
def IsFiled (d : Disk) : Prop :=
  ∀ p c, p ≠ Store.settingsPath → readAt d p = .ok c → path c.session c.id = .ok p

/-- What is found is what was asked for. -/
theorem IsFiled.of_find? (h : IsFiled d) (hfind : find? d session id = .ok (some c)) :
  c.session = session ∧ c.id = id ∧ c.IsStorable
  := by
  obtain ⟨p, hp, hread⟩ := find?_eq_some.mp hfind
  obtain ⟨hs, hi⟩ := path_inj (h p c (Store.settingsPath_ne hp).1 hread) hp
  exact ⟨hs, hi, isStorable_of_readAt hread⟩

/-- What is listed has a key for its id. -/
theorem IsFiled.of_all (h : IsFiled d) {cs : List Conversation} (hall : all d session = .ok cs) :
  Key.isKey session = true ∧ ∀ c ∈ cs, Key.isKey c.id = true
  := by
  obtain ⟨hkey, hcs⟩ := mem_of_all hall
  refine ⟨hkey, fun c hc => ?_⟩
  obtain ⟨p, hp, hread⟩ := hcs c hc
  have hsettings : p ≠ Store.settingsPath := by
    rintro rfl
    have hinside := (List.mem_filter.mp (List.mem_filter.mp hp).1).2
    simp [Store.settingsPath, root] at hinside
  exact (path_eq_ok_iff.mp (h p c hsettings hread)).2.1

/-! ### Shelves -/

/-- Whether a path lies in the folder of a session. -/
def isUnder (session : Text) (p : Path) : Bool :=
  (root ++ [session]).isPrefixOf p

/-- The files in the folder of a session. -/
def shelf (session : Text) (d : Disk) : List (Path × Text) :=
  Entries.restrict (isUnder session) d.files

/-- A conversation lies under the folder of its own session only. -/
theorem isUnder_path (h : path session id = .ok p) (key : Text) :
  isUnder key p = (session == key)
  := by
  obtain ⟨-, -, rfl⟩ := path_eq_ok_iff.mp h
  rw [Bool.eq_iff_iff, isUnder, List.isPrefixOf_iff_prefix, beq_iff_eq, eq_comm]
  simp [root]

/-- The shelf of a session has the files in its folder. -/
theorem file?_of_isUnder (h : isUnder session p = true) (d : Disk) :
  Entries.get? (shelf session d) p = d.file? p
  := Entries.get?_restrict h d.files

/-- Storing a file puts it in its place and leaves all others. -/
theorem files_of_store {t : Text} (h : d.store p t = .ok e) :
  e.files = Entries.put p t d.files
  := by
  rw [Disk.store, Operation.bind_eq_ok_iff] at h
  obtain ⟨m, hm, hw⟩ := h
  obtain ⟨-, rfl⟩ := Disk.write_eq_ok_iff.mp hw
  rw [Disk.putFile, Disk.makeFolder_files hm]

/-- Storing a conversation leaves the shelves of other sessions. -/
theorem shelf_save_of_ne (h : save d c = .ok e) (hne : c.session ≠ session) :
  shelf session e = shelf session d
  := by
  obtain ⟨p, hp, hst⟩ := store_of_save h
  rw [shelf, files_of_store hst]
  apply Entries.restrict_put_of_not
  rw [isUnder_path hp]
  simpa using hne

/-- Removing a file takes it off the shelf. -/
theorem shelf_remove (session : Text) (d : Disk) (p : Path) :
  shelf session (d.remove p) = Entries.erase p (shelf session d)
  := Entries.restrict_erase _ p d.files

/-- Removing a file of a session leaves the shelves of all others. -/
theorem shelf_remove_of_ne (hp : path session id = .ok p) {key : Text} (hne : session ≠ key)
    (d : Disk) :
  shelf key (d.remove p) = shelf key d
  := by
  apply Entries.restrict_erase_of_not
  rw [isUnder_path hp]
  simpa using hne

/-! ### Reading from a shelf -/

/-- What is read is a matter of the file in its place. -/
theorem readAt_congr (h : d.file? p = e.file? p) (hf : d.hasFile p = true) :
  readAt d p = readAt e p
  := by
  obtain ⟨t, ht⟩ := Option.isSome_iff_exists.mp hf
  have hd : d.read p = .ok (Text.unifyNewlines t) := by simp only [Disk.read, ht]
  have he : e.read p = .ok (Text.unifyNewlines t) := by simp only [Disk.read, ← h, ht]
  rw [readAt, readAt, hd, he]

/-- What is found of a session depends on its shelf. -/
theorem find?_congr (h : shelf session d = shelf session e) (id : Text) :
  find? d session id = find? e session id
  := by
  cases hp : path session id with
  | error f => rw [find?, find?, hp]; rfl
  | ok p =>
      have hunder : isUnder session p = true := by simp [isUnder_path hp]
      have hfile : d.file? p = e.file? p := by
        rw [← file?_of_isUnder hunder, h, file?_of_isUnder hunder]
      have hhas : d.hasFile p = e.hasFile p := by rw [Disk.hasFile, Disk.hasFile, hfile]
      rw [find?, find?, hp]
      simp only [Except.mapError, bind, Except.bind, ← hhas]
      split_ifs with hf
      · rw [readAt_congr hfile hf]
      · rfl

/-- In the folder of a session there are only files. -/
theorem filesIn_eq_filter (h : d.IsShallow) (session : Text) :
  filesIn d (root ++ [session])
    = (d.files.map (·.1)).filter fun p =>
        (p.dropLast == root ++ [session]) && fileEnding.isSuffixOf (p.getLastD [])
  := by
  -- Folders are too short to lie in the folder of a session.
  have hfolders : d.folders.filter
      (fun p => !p.isEmpty && p.dropLast == root ++ [session]) = [] := by
    rw [List.filter_eq_nil_iff]
    intro p hp hin
    have hlength := h.folders p hp
    simp only [Bool.and_eq_true, Bool.not_eq_true', beq_iff_eq] at hin
    have hdrop : p.dropLast.length = 2 := by rw [hin.2]; rfl
    rw [List.length_dropLast] at hdrop
    omega
  rw [filesIn, Disk.inside, List.filter_append, hfolders, List.append_nil, List.filter_filter]
  apply List.filter_congr
  intro p _
  cases p with
  | nil => rfl
  | cons name p => exact Bool.and_comm _ _

/-- They are those of its shelf. -/
theorem filesIn_eq (h : d.IsShallow) (session : Text) :
  filesIn d (root ++ [session])
    = ((shelf session d).map (·.1)).filter fun p =>
        (p.dropLast == root ++ [session]) && fileEnding.isSuffixOf (p.getLastD [])
  := by
  rw [filesIn_eq_filter h, shelf, Entries.restrict, List.filter_map, List.filter_map,
    List.filter_filter]
  congr 1
  apply List.filter_congr
  rintro ⟨p, t⟩ -
  -- What lies right inside the folder lies under it.
  cases hin : (p.dropLast == root ++ [session]) with
  | false => simp [hin]
  | true =>
      have hunder : isUnder session p = true := by
        rw [isUnder, ← beq_iff_eq.mp hin, List.isPrefixOf_iff_prefix]
        apply List.dropLast_prefix
      simp [hin, hunder]

/-- What is listed of a session depends on its shelf. -/
theorem all_congr (hd : d.IsShallow) (he : e.IsShallow) (h : shelf session d = shelf session e) :
  all d session = all e session
  := by
  cases hf : folder session with
  | error f => rw [all, all, hf]; rfl
  | ok f =>
      obtain rfl : root ++ [session] = f := by
        rw [folder, Key.check] at hf
        split_ifs at hf
        · exact Except.ok.inj hf
        · cases hf
      have hfiles : filesIn d (root ++ [session]) = filesIn e (root ++ [session]) := by
        rw [filesIn_eq hd, filesIn_eq he, h]
      have hread : (filesIn d (root ++ [session])).mapM (readAt d)
          = (filesIn d (root ++ [session])).mapM (readAt e) := by
        apply mapM_congr
        intro p hp
        rw [filesIn_eq hd, List.mem_filter, List.mem_map] at hp
        obtain ⟨⟨f, hf, rfl⟩, -⟩ := hp
        obtain ⟨hfile, hunder⟩ := List.mem_filter.mp hf
        have hhas : d.hasFile f.1 = true := Entries.isSome_get?_of_mem hfile
        apply readAt_congr _ hhas
        rw [← file?_of_isUnder hunder, h, file?_of_isUnder hunder]
      rw [all, all, hf]
      simp only [Except.mapError, bind, Except.bind, ← hfiles, hread]

/-! ### What is done to a shelf -/

/-- What nothing, storing conversations of a session, making its folder or taking conversations
away makes of a disk. -/
inductive Touches (session : Option Text) (d : Disk) : Disk → Prop where
  | still : Touches session d d
  | placed {e e' : Disk} {key : Text} (h : Touches session d e)
      (hmake : e.makeFolder (root ++ [key]) = .ok e') :
    Touches session d e'
  | saved {e e' : Disk} {c : Conversation} (h : Touches session d e)
      (hs : session = some c.session) (hc : c.IsStorable) (hsave : save e c = .ok e') :
    Touches session d e'
  | removed {e : Disk} {key id : Text} {p : Path} (h : Touches session d e)
      (hs : session = some key) (hp : path key id = .ok p) :
    Touches session d (e.remove p)

namespace Touches

variable {session : Option Text}

/-- What touches a session in two steps touches it. -/
theorem trans (h : Touches session d d') (h' : Touches session d' e) :
  Touches session d e
  := by
  induction h' with
  | still => exact h
  | placed _ hmake ih => exact ih.placed hmake
  | saved _ hs hc hsave ih => exact ih.saved hs hc hsave
  | removed _ hs hp ih => exact ih.removed hs hp

/-- A disk whose session is touched stays shallow. -/
theorem isShallow (h : Touches session d e) (hd : d.IsShallow) :
  e.IsShallow
  := by
  induction h with
  | still => exact hd
  | @placed _ _ key _ hmake ih =>
      obtain ⟨e', he', -, hshallow, -⟩ := ih.exists_makeFolder key
      rw [hmake] at he'
      rwa [Except.ok.inj he']
  | @saved _ _ c _ _ _ hsave ih =>
      obtain ⟨p, hp, hst⟩ := store_of_save hsave
      obtain ⟨e', he', -, hshallow⟩ := ih.exists_store hp (Record.write .indented c)
      rw [hst] at he'
      rwa [Except.ok.inj he']
  | removed _ _ _ ih => exact ih.remove _

/-- The conversations stay in their places. -/
theorem isFiled (h : Touches session d e) (hd : IsFiled d) :
  IsFiled e
  := by
  induction h with
  | still => exact hd
  | placed _ hmake ih =>
      intro q c' hq hread
      apply ih q c' hq
      rw [readAt_eq_ok_iff] at hread ⊢
      rwa [Disk.file?, Disk.makeFolder_files hmake] at hread
  | @saved m e c _ _ hc hsave ih =>
      obtain ⟨p, hheld, hothers⟩ := holds_of_save hsave
      intro q c' hq hread
      by_cases hpq : p = q
      · subst hpq
        rw [readAt_of_file? hheld.file hc] at hread
        rw [← Except.ok.inj hread]
        exact hheld.path
      · apply ih q c' hq
        rw [readAt_eq_ok_iff] at hread ⊢
        rwa [← hothers q hpq]
  | removed _ _ _ ih =>
      intro q c' hq hread
      apply ih q c' hq
      rw [readAt_eq_ok_iff] at hread ⊢
      obtain ⟨t, ht, hread⟩ := hread
      rw [Disk.file?_remove] at ht
      split_ifs at ht
      exact ⟨t, ht, hread⟩

theorem settings (h : Touches session d e) :
  e.file? Store.settingsPath = d.file? Store.settingsPath
  := by
  induction h with
  | still => rfl
  | placed _ hmake ih => rw [Disk.file?, Disk.makeFolder_files hmake, ← Disk.file?, ih]
  | saved _ _ _ hsave ih =>
      obtain ⟨p, hheld, hothers⟩ := holds_of_save hsave
      rw [hothers _ (Store.settingsPath_ne hheld.path).1, ih]
  | removed _ _ hp ih => rw [Disk.file?_remove, if_neg (Store.settingsPath_ne hp).1, ih]

/-- The shelves of other sessions stay. -/
theorem shelf_eq (h : Touches session d e) {key : Text} (hkey : session ≠ some key) :
  shelf key e = shelf key d
  := by
  induction h with
  | still => rfl
  | placed _ hmake ih => rw [shelf, Disk.makeFolder_files hmake, ← shelf, ih]
  | saved _ hs _ hsave ih =>
      rw [hs] at hkey
      rw [shelf_save_of_ne hsave (fun he => hkey (congrArg some he)), ih]
  | removed _ hs hp ih =>
      rw [hs] at hkey
      rw [shelf_remove_of_ne hp (fun he => hkey (congrArg some he)), ih]

end Touches

end Archive

end BranchingStory
