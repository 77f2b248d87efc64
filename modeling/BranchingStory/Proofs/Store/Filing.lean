import BranchingStory.Proofs.Store.Catalog
import BranchingStory.Proofs.Store.Shelf
import BranchingStory.Proofs.Text.Order
import Mathlib.Data.List.Perm.Basic

/-!
# The files of a catalog

A store represents a catalog when its files are, in whatever order, those of the entries of the
catalog.  Then what is read from the files is what the catalog has, and storing or removing the
file of a conversation does to the store what is done to the catalog.  The stamps under which
entries were written rise, so sorting by them brings the one that was written last to the front.
-/

namespace BranchingStory

/-! ### The files of a catalog -/

namespace Archive

/-- Where the conversation under a key is stored. -/
def place (key : Text × Text) : Path :=
  root ++ [key.1] ++ [key.2 ++ fileEnding]

/-- Different keys have different places. -/
theorem place_injective :
  Function.Injective place
  := by
  rintro ⟨session, id⟩ ⟨session', id'⟩ h
  simpa [place, root] using h

/-- Keys lead to their place. -/
theorem path_eq_place {session id : Text} (hs : Key.isKey session = true)
    (hi : Key.isKey id = true) :
  path session id = .ok (place (session, id))
  := path_eq_ok_iff.mpr ⟨hs, hi, rfl⟩

end Archive

/-- A supply whose stamps rise in the order of texts, and whose ids are keys; an id may come
again. -/
structure Supply.Serves (u : Supply) : Prop where
  rises : ∀ m n, 0 < m → m < n → Text.Precedes (u.stamp m) (u.stamp n)
  keys : ∀ n, 0 < n → Key.isKey (u.id n) = true

/-- The supply that makes strokes, for an id at most as many as a key has characters. -/
def Supply.strokes : Supply where
  stamp n := List.replicate n 't'
  id n := List.replicate (min n Key.limit) 'i'

/-- The supply of strokes serves. -/
theorem Supply.strokes_serves :
  Supply.strokes.Serves
  := by
  constructor
  · intro m n _ hmn
    refine ⟨Text.isAtMost_replicate (Nat.le_of_lt hmn) 't', fun h => ?_⟩
    have hlength := congrArg List.length h
    simp only [strokes, List.length_replicate] at hlength
    omega
  · intro n hn
    have hsome : (!List.isEmpty (List.replicate (min n Key.limit) 'i')) = true := by
      rw [Bool.not_eq_true', Bool.eq_false_iff, Ne, List.isEmpty_iff, List.replicate_eq_nil_iff]
      apply Nat.ne_of_gt
      exact Nat.lt_min.mpr ⟨hn, by decide⟩
    have hlength : (List.replicate (min n Key.limit) 'i').length ≤ Key.limit := by
      rw [List.length_replicate]
      apply Nat.min_le_right
    have hall : List.all (List.replicate (min n Key.limit) 'i') Key.admits = true := by
      rw [List.all_eq_true]
      intro c hc
      rw [List.eq_of_mem_replicate hc]
      decide
    rw [Key.isKey, Bool.and_eq_true, Bool.and_eq_true]
    exact ⟨⟨hsome, decide_eq_true hlength⟩, hall⟩

namespace Catalog

/-- An entry whose conversation is stored under its key and read back from there. -/
structure IsFiled (e : (Text × Text) × Conversation) : Prop where
  session : e.2.session = e.1.1
  id : e.2.id = e.1.2
  sessionKey : Key.isKey e.1.1 = true
  idKey : Key.isKey e.1.2 = true
  storable : e.2.IsStorable

/-- A catalog whose entries can be stored, and were written under stamps that were given out, the
latest first. -/
structure IsSound (k : Catalog) : Prop where
  filed : ∀ e ∈ k.entries, IsFiled e
  dated : ∀ e ∈ k.entries, ∃ n, 0 < n ∧ n ≤ k.stamps ∧ e.2.updated = k.supply.stamp n
  recent : k.entries.Pairwise fun e e' => Text.Precedes e'.2.updated e.2.updated

/-- The file of an entry. -/
def file (e : (Text × Text) × Conversation) : Path × Text :=
  (Archive.place e.1, Record.write .indented e.2)

variable {k : Catalog} {key : Text × Text} {session : Text} {c : Conversation}

/-- A catalog without conversations is sound. -/
theorem isSound_empty (supply : Supply) :
  (empty supply).IsSound
  := ⟨nofun, nofun, .nil⟩

/-- A catalog stays sound when stamps and ids are given out. -/
theorem IsSound.give (h : k.IsSound) (stamps ids : Nat) :
  (k.give stamps ids).IsSound
  := by
  refine ⟨h.filed, fun e he => ?_, h.recent⟩
  obtain ⟨n, hpos, hn, hdate⟩ := h.dated e he
  exact ⟨n, hpos, Nat.le_add_right_of_le hn, hdate⟩

/-- What is left of a sound catalog is sound. -/
theorem IsSound.without (h : k.IsSound) (gone : Text × Text → Bool) :
  (k.without gone).IsSound
  := ⟨fun e he => h.filed e (List.mem_of_mem_filter he),
      fun e he => h.dated e (List.mem_of_mem_filter he), h.recent.filter _⟩

/-- A conversation may be written under the next stamp. -/
theorem IsSound.put (h : k.IsSound) (hu : k.supply.Serves) (hfiled : IsFiled (key, c))
    (hdate : c.updated = k.supply.stamp (k.stamps + 1)) (ids : Nat) :
  ((k.give 1 ids).put key c).IsSound
  := by
  have hrest := (h.give 1 ids).without (· == key)
  refine ⟨?_, ?_, List.pairwise_cons.mpr ⟨?_, hrest.recent⟩⟩
  · intro e he
    obtain rfl | he := List.mem_cons.mp he
    · exact hfiled
    · apply hrest.filed e he
  · intro e he
    obtain rfl | he := List.mem_cons.mp he
    · exact ⟨k.stamps + 1, Nat.succ_pos _, Nat.le_refl _, hdate⟩
    · apply hrest.dated e he
  · intro e he
    obtain ⟨n, hpos, hn, hdated⟩ := h.dated e (List.mem_of_mem_filter he)
    rw [hdate, hdated]
    apply hu.rises n _ hpos (Nat.lt_succ_of_le hn)

/-- The conversations of a session have different ids. -/
theorem IsSound.nodup_ids (h : k.IsSound) (session : Text) :
  ((k.ofSession session).map (·.id)).Nodup
  := by
  rw [ofSession, List.map_map]
  apply List.Nodup.map_on _ ((List.Nodup.of_map _ k.distinct).filter _)
  intro e he e' he' hid
  obtain ⟨he, hsession⟩ := List.mem_filter.mp he
  obtain ⟨he', hsession'⟩ := List.mem_filter.mp he'
  have hkey : e.1 = e'.1 := by
    apply Prod.ext
    · rw [eq_of_beq hsession, eq_of_beq hsession']
    · rw [← (h.filed e he).id, ← (h.filed e' he').id]
      exact hid
  exact List.inj_on_of_nodup_map k.distinct he he' hkey

/-- The conversations of a session come in the order of the catalog when they are sorted by the
stamps under which they were written, the latest first. -/
theorem IsSound.mergeSort_eq (h : k.IsSound) {cs : List Conversation}
    (hcs : cs.Perm (k.ofSession session)) :
  cs.mergeSort (fun a b => Text.isAtMost b.updated a.updated) = k.ofSession session
  := by
  have hrecent : (k.ofSession session).Pairwise
      fun c c' => Text.Precedes c'.updated c.updated :=
    List.pairwise_map.mpr (h.recent.filter _)
  have hstamps : ((k.ofSession session).map (·.updated)).Nodup :=
    List.pairwise_map.mpr (hrecent.imp fun hc => hc.2.symm)
  have hsorted : (cs.mergeSort fun a b => Text.isAtMost b.updated a.updated).Pairwise
      fun c c' => Text.isAtMost c'.updated c.updated = true := by
    apply List.pairwise_mergeSort
    · intro a b c hab hbc
      exact Text.isAtMost_trans hbc hab
    · intro a b
      rw [Bool.or_eq_true]
      exact Text.isAtMost_total _ _
  apply List.Perm.eq_of_pairwise _ hsorted (hrecent.imp fun hc => hc.1)
    ((List.mergeSort_perm _ _).trans hcs)
  -- Two conversations of a session under one stamp are the same.
  intro c c' hc hc' hle hge
  have hmem := hcs.mem_iff.mp (List.mem_mergeSort.mp hc)
  exact List.inj_on_of_nodup_map hstamps hmem hc' (Text.isAtMost_antisymm hge hle)

/-- In the place of a key stands the file of the conversation under it. -/
theorem get?_map_file (es : List ((Text × Text) × Conversation)) (key : Text × Text) :
  Entries.get? (es.map file) (Archive.place key)
    = (Entries.get? es key).map (Record.write .indented)
  := by
  induction es with
  | nil => rfl
  | cons e es ih =>
      rw [List.map_cons, Entries.get?_cons, Entries.get?_cons, ih]
      have hplace : (file e).1 = Archive.place key ↔ e.1 = key := Archive.place_injective.eq_iff
      by_cases h : e.1 = key
      · rw [if_pos h, if_pos (hplace.mpr h)]
        rfl
      · rw [if_neg h, if_neg (fun hp => h (hplace.mp hp))]

theorem put_map_file (es : List ((Text × Text) × Conversation)) (key : Text × Text)
    (c : Conversation) :
  Entries.put (Archive.place key) (Record.write .indented c) (es.map file)
    = (Entries.put key c es).map file
  := by
  induction es with
  | nil => rfl
  | cons e es ih =>
      have hplace : (file e).1 = Archive.place key ↔ e.1 = key := Archive.place_injective.eq_iff
      rw [List.map_cons, Entries.put, Entries.put]
      by_cases h : e.1 = key
      · rw [if_pos h, if_pos (hplace.mpr h)]
        rfl
      · rw [if_neg h, if_neg (fun hp => h (hplace.mp hp)), ih]
        rfl

/-- Erasing a file leaves the files of the other entries. -/
theorem erase_map_file (es : List ((Text × Text) × Conversation)) (key : Text × Text) :
  Entries.erase (Archive.place key) (es.map file)
    = (es.filter fun e => !(e.1 == key)).map file
  := by
  rw [Entries.erase, List.filter_map]
  congr 1
  apply List.filter_congr
  intro e _
  have hplace : (file e).1 = Archive.place key ↔ e.1 = key := Archive.place_injective.eq_iff
  rw [Bool.eq_iff_iff]
  simp [hplace]

/-- On a disk with the files of entries, those in the folder of a session are the files of the
entries of the session. -/
theorem filesIn_perm {d : Disk} (hd : d.IsShallow) {es : List ((Text × Text) × Conversation)}
    (h : d.files.Perm (es.map file)) (session : Text) :
  (Archive.filesIn d (Archive.root ++ [session])).Perm
    ((es.filter (·.1.1 == session)).map fun e => Archive.place e.1)
  := by
  have hplace (e : (Text × Text) × Conversation) :
      (((Archive.place e.1).dropLast == Archive.root ++ [session])
        && Archive.fileEnding.isSuffixOf ((Archive.place e.1).getLastD []))
      = (e.1.1 == session) := by
    have hlast : Archive.fileEnding.isSuffixOf ((Archive.place e.1).getLastD []) = true := by
      rw [List.isSuffixOf_iff_suffix]
      exact ⟨e.1.2, rfl⟩
    rw [hlast, Bool.and_true, Bool.eq_iff_iff]
    simp [Archive.place, Archive.root]
  have hkeys : (d.files.map (·.1)).Perm (es.map fun e => Archive.place e.1) := by
    have hmap := h.map (·.1)
    rwa [List.map_map] at hmap
  rw [Archive.filesIn_eq_filter hd]
  apply (hkeys.filter _).trans
  rw [List.filter_map]
  apply List.Perm.of_eq
  congr 1
  apply List.filter_congr
  intro e _
  exact hplace e

/-- No two entries of a catalog have their files in one place. -/
theorem nodup_map_file (k : Catalog) :
  ((k.entries.map file).map (·.1)).Nodup
  := by
  have hmap : (k.entries.map file).map (·.1) = (k.entries.map (·.1)).map Archive.place := by
    simp [file]
  rw [hmap]
  exact k.distinct.map Archive.place_injective

end Catalog

/-! ### Stores that represent catalogs -/

namespace Store

/-- A store whose files are those of the entries of a catalog, and whose supply stands where that
of the catalog does. -/
structure Represents (s : Store) (k : Catalog) : Prop where
  supply : s.supply = k.supply
  stamps : s.stamps = k.stamps
  ids : s.ids = k.ids
  shallow : s.disk.IsShallow
  files : s.disk.files.Perm (k.entries.map Catalog.file)

variable {s : Store} {k : Catalog} {session id : Text} {key : Text × Text} {c : Conversation}

/-- The file where a key leads is that of the conversation under the key. -/
theorem Represents.file? (h : s.Represents k) (key : Text × Text) :
  s.disk.file? (Archive.place key) = (k.find? key).map (Record.write .indented)
  := by
  have hnodup := ((h.files.map (·.1)).nodup_iff).mpr k.nodup_map_file
  rw [Disk.file?, Entries.get?_perm h.files hnodup, Catalog.get?_map_file]
  rfl

/-- A file that a key leads to is read as the conversation under the key. -/
theorem Represents.readAt (h : s.Represents k) (hk : k.IsSound) {e : (Text × Text) × Conversation}
    (he : e ∈ k.entries) :
  Archive.readAt s.disk (Archive.place e.1) = .ok e.2
  := by
  have hfind : k.find? e.1 = some e.2 := (Entries.get?_eq_some_iff k.distinct).mpr he
  apply Archive.readAt_of_file? _ (hk.filed e he).storable
  rw [h.file?, hfind]
  rfl

/-- The files in the folder of a session are those of the entries of the session. -/
theorem Represents.filesIn (h : s.Represents k) (session : Text) :
  (Archive.filesIn s.disk (Archive.root ++ [session])).Perm
    ((k.entries.filter (·.1.1 == session)).map fun e => Archive.place e.1)
  := Catalog.filesIn_perm h.shallow h.files session

/-- Files that can all be read give what each of them holds. -/
theorem mapM_readAt {d : Disk} {ps : List Path}
    (h : ∀ p ∈ ps, ∃ c, Archive.readAt d p = .ok c) :
  ps.mapM (Archive.readAt d) = .ok (ps.filterMap fun p => (Archive.readAt d p).toOption)
  := by
  induction ps with
  | nil => rfl
  | cons p ps ih =>
      obtain ⟨c, hc⟩ := h p List.mem_cons_self
      rw [List.mapM_cons, hc, ih fun q hq => h q (List.mem_cons_of_mem _ hq)]
      simp [hc, Except.toOption, bind, Except.bind, pure, Except.pure]

/-- What is listed for a session in the archive is what the catalog has of it: the stamps under
which the conversations were written last give the order. -/
theorem Represents.all (h : s.Represents k) (hk : k.IsSound) (hs : Key.isKey session = true) :
  Archive.all s.disk session = .ok (k.ofSession session)
  := by
  have hfolder : Archive.folder session = .ok (Archive.root ++ [session]) := by
    rw [Archive.folder, Key.check, if_pos hs]
    rfl
  have hperm := h.filesIn session
  have hread : ∀ p ∈ Archive.filesIn s.disk (Archive.root ++ [session]),
      ∃ c, Archive.readAt s.disk p = .ok c := by
    intro p hp
    obtain ⟨e, he, rfl⟩ := List.mem_map.mp (hperm.mem_iff.mp hp)
    exact ⟨e.2, h.readAt hk (List.mem_of_mem_filter he)⟩
  have hlisted : ((Archive.filesIn s.disk (Archive.root ++ [session])).filterMap
      fun p => (Archive.readAt s.disk p).toOption).Perm (k.ofSession session) := by
    apply (hperm.filterMap _).trans
    rw [List.filterMap_map, Catalog.ofSession, ← List.filterMap_eq_map]
    apply List.Perm.of_eq
    apply List.filterMap_congr
    intro e he
    simp [h.readAt hk (List.mem_of_mem_filter he), Except.toOption]
  simp only [Archive.all, hfolder, mapM_readAt hread, Except.mapError, bind, Except.bind, pure,
    Except.pure, hk.mergeSort_eq hlisted]

/-- What is found under a key in the archive is what stands there in the catalog. -/
theorem Represents.find? (h : s.Represents k) (hk : k.IsSound) (hs : Key.isKey session = true)
    (hi : Key.isKey id = true) :
  Archive.find? s.disk session id = .ok (k.find? (session, id))
  := by
  have hfile := h.file? (session, id)
  simp only [Archive.find?, Archive.path_eq_place hs hi, Except.mapError, bind, Except.bind,
    Disk.hasFile, hfile]
  cases hfind : k.find? (session, id) with
  | none => rfl
  | some c =>
      have hread := h.readAt hk (Entries.mem_of_get? hfind)
      simp only [Option.map_some, Option.isSome_some, if_true, hread]
      rfl

/-! ### Writing and removing -/

/-- Giving out stamps and ids does the same to a store and to the catalog that it represents. -/
theorem Represents.give (h : s.Represents k) (stamps ids : Nat) :
  Represents { s with stamps := s.stamps + stamps, ids := s.ids + ids } (k.give stamps ids)
  := ⟨h.supply, congrArg (· + stamps) h.stamps, congrArg (· + ids) h.ids, h.shallow, h.files⟩

/-- Storing a conversation puts it in front of the catalog. -/
theorem Represents.put (h : s.Represents k) (hfiled : Catalog.IsFiled (key, c)) :
  ∃ d, Archive.save s.disk c = .ok d ∧ Represents { s with disk := d } (k.put key c)
  := by
  have hpath : Archive.path c.session c.id = .ok (Archive.place key) := by
    rw [hfiled.session, hfiled.id]
    apply Archive.path_eq_place hfiled.sessionKey hfiled.idKey
  obtain ⟨d, hd, hfiles, hshallow⟩ := h.shallow.exists_store hpath
    (Record.write .indented c)
  refine ⟨d, ?_, h.supply, h.stamps, h.ids, hshallow, ?_⟩
  · rw [Archive.save_of_path hpath, hd]
    rfl
  · have hnodup := ((h.files.map (·.1)).nodup_iff).mpr k.nodup_map_file
    have herase : (Entries.erase (Archive.place key) s.disk.files).Perm
        ((k.without (· == key)).entries.map Catalog.file) := by
      apply (h.files.filter _).trans
      exact List.Perm.of_eq (Catalog.erase_map_file k.entries key)
    rw [hfiles]
    exact (Entries.put_perm hnodup _ _).trans (herase.cons _)

/-- Removing the file of a conversation takes it out of the catalog. -/
theorem Represents.remove (h : s.Represents k) (key : Text × Text) :
  Represents { s with disk := s.disk.remove (Archive.place key) } (k.without (· == key))
  := by
  refine ⟨h.supply, h.stamps, h.ids, h.shallow.remove _, ?_⟩
  apply (h.files.filter _).trans
  exact List.Perm.of_eq (Catalog.erase_map_file k.entries key)

end Store

end BranchingStory
