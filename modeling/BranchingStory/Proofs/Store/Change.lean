import BranchingStory.Proofs.Record.Revision
import BranchingStory.Proofs.Store.Actions

/-!
# Changes of a store

What one request may do to the files of a store, and what follows for the conversations in it: in
a tidy store every file but that of the settings holds a conversation in its place, a change
leaves the store tidy, and every conversation that it does not take away grows.
-/

namespace BranchingStory

namespace Store

open Operation

/-! ### Tidy stores -/

/-- A store whose files are that of the settings and those of regular conversations, in their
places and under ids that were given out. -/
def IsTidy (s : Store) : Prop :=
  ∀ p, s.disk.hasFile p = true → p = settingsPath
    ∨ ∃ c, Archive.Holds s.disk p c ∧ c.IsRegular ∧ ∃ n ≤ s.ids, c.id = s.supply.id n

variable {s s' : Store} {c : Conversation} {p : Path} {session id : Text}

/-- What is found in a tidy store is a regular conversation that the store holds. -/
theorem IsTidy.of_find? (h : s.IsTidy) (hfind : Archive.find? s.disk session id = .ok (some c)) :
  ∃ p, Archive.path session id = .ok p ∧ Archive.Holds s.disk p c ∧ c.IsRegular
    ∧ c.session = session ∧ c.id = id ∧ ∃ n ≤ s.ids, c.id = s.supply.id n
  := by
  obtain ⟨p, hp, hread⟩ := Archive.find?_eq_some.mp hfind
  obtain rfl | ⟨d, hd, hregular, hgiven⟩ := h p (Archive.hasFile_of_readAt hread)
  · exact absurd rfl (settingsPath_ne hp).1
  · obtain ⟨hs, hi⟩ := Archive.path_inj hd.path hp
    have hfound := hd.find? hregular.storable
    rw [hs, hi, hfind] at hfound
    obtain rfl : c = d := Option.some.inj (Except.ok.inj hfound)
    exact ⟨p, hp, hd, hregular, hs, hi, hgiven⟩

/-! ### Changes -/

/-- What stays the same about the supply and about the places of conversations. -/
structure Continues (s s' : Store) : Prop where
  supply : s'.supply = s.supply
  ids : s.ids ≤ s'.ids
  places : ∀ session id p, Archive.path session id = .ok p → s.disk.IsPlace p → s'.disk.IsPlace p

/-- A store goes on when nothing happens to its disk and no ids are taken back. -/
theorem Continues.of_disk (hd : s'.disk = s.disk) (hs : s'.supply = s.supply)
    (hi : s.ids ≤ s'.ids) :
  s.Continues s'
  := ⟨hs, hi, fun _ _ _ _ h => hd ▸ h⟩

/-- What goes on and goes on again goes on. -/
theorem Continues.trans {s'' : Store} (h : s.Continues s') (h' : s'.Continues s'') :
  s.Continues s''
  := ⟨h'.supply.trans h.supply, Nat.le_trans h.ids h'.ids,
      fun session id p hp hplace => h'.places session id p hp (h.places session id p hp hplace)⟩

/-- What may happen to the files of conversations: nothing; one conversation is created; one is
revised as suits it; or some are taken away, of which `gone` tells. -/
inductive Change (gone : Text → Text → Prop) (s s' : Store) : Prop where
  | still (files : ∀ p, p ≠ settingsPath → s'.disk.file? p = s.disk.file? p)
  | created {p : Path} {c : Conversation} (held : Archive.Holds s'.disk p c)
      (regular : c.IsRegular) (id : c.id = s.supply.id (s.ids + 1)) (given : s.ids < s'.ids)
      (others : ∀ q, p ≠ q → s'.disk.file? q = s.disk.file? q)
  | revised {p : Path} {c : Conversation}
      (find : Archive.find? s.disk c.session c.id = .ok (some c))
      (r : Revision) (now : Text) (suits : c.Suits r)
      (held : Archive.Holds s'.disk p (c.revise r now))
      (others : ∀ q, p ≠ q → s'.disk.file? q = s.disk.file? q)
  | removed (files : ∀ q, s'.disk.file? q = s.disk.file? q
      ∨ s'.disk.file? q = none
        ∧ ∃ session id, Archive.path session id = .ok q ∧ gone session id)

/-- A conversation whose file stays is still held. -/
theorem Continues.holds (hs : s.Continues s') (h : Archive.Holds s.disk p c)
    (hfile : s'.disk.file? p = s.disk.file? p) :
  Archive.Holds s'.disk p c
  := ⟨h.path, hs.places _ _ _ h.path h.place, hfile.trans h.file⟩

/-- A change leaves a store tidy. -/
theorem Change.isTidy {gone : Text → Text → Prop} (hc : Change gone s s') (hs : s.Continues s')
    (h : s.IsTidy) :
  s'.IsTidy
  := by
  -- A file that was there stays in its place, and its id stays given out.
  have hkept {q : Path} (hf : s'.disk.hasFile q = true)
      (hfile : s'.disk.file? q = s.disk.file? q) :
      q = settingsPath ∨ ∃ c, Archive.Holds s'.disk q c ∧ c.IsRegular
        ∧ ∃ n ≤ s'.ids, c.id = s'.supply.id n := by
    rw [Disk.hasFile, hfile] at hf
    obtain rfl | ⟨c, hheld, hregular, n, hn, hid⟩ := h q hf
    · exact Or.inl rfl
    · exact Or.inr ⟨c, hs.holds hheld hfile, hregular, n,
        Nat.le_trans hn hs.ids, by rw [hid, hs.supply]⟩
  intro q hf
  cases hc with
  | still files =>
      by_cases hq : q = settingsPath
      · exact Or.inl hq
      · exact hkept hf (files q hq)
  | @created p c held regular id given others =>
      by_cases hq : p = q
      · subst hq
        exact Or.inr ⟨c, held, regular, s.ids + 1, given, by rw [id, hs.supply]⟩
      · exact hkept hf (others q hq)
  | @revised p c find r now suits held others =>
      by_cases hq : p = q
      · subst hq
        obtain ⟨-, -, -, hregular, -, -, n, hn, hid⟩ := h.of_find? find
        exact Or.inr ⟨_, held, (suits.grows hregular now).1, n, Nat.le_trans hn hs.ids,
          by rw [hs.supply]; exact hid⟩
      · exact hkept hf (others q hq)
  | removed files =>
      obtain hfile | ⟨hnone, -⟩ := files q
      · exact hkept hf hfile
      · rw [Disk.hasFile, hnone] at hf
        cases hf

/-- A conversation that is not taken away grows with a change, and what is noted as taken in it
was offered before. -/
theorem Change.find? {gone : Text → Text → Prop} (hc : Change gone s s') (hs : s.Continues s')
    (hids : Function.Injective s.supply.id) (h : s.IsTidy)
    (hfind : Archive.find? s.disk session id = .ok (some c)) (hgone : ¬ gone session id) :
  ∃ d, Archive.find? s'.disk session id = .ok (some d) ∧ c.Grows d
    ∧ ∃ new, d.selected = c.selected ++ new ∧ ∀ t ∈ new, t ∈ c.choices.map (·.id)
  := by
  obtain ⟨p, hp, hheld, hregular, rfl, rfl, n, hn, hid⟩ := h.of_find? hfind
  have hkept (hfile : s'.disk.file? p = s.disk.file? p) :
      ∃ d, Archive.find? s'.disk c.session c.id = .ok (some d) ∧ c.Grows d
        ∧ ∃ new, d.selected = c.selected ++ new ∧ ∀ t ∈ new, t ∈ c.choices.map (·.id) :=
    ⟨c, (hs.holds hheld hfile).find? hregular.storable, .refl c, [], by simp,
      by simp⟩
  cases hc with
  | still files => exact hkept (files p (settingsPath_ne hp).1)
  | @created q d held regular id given others =>
      -- The id of the new conversation was not given out before.
      apply hkept (others p _)
      rintro rfl
      obtain ⟨-, hsame⟩ := Archive.path_inj held.path hp
      have hn' := hids (id.symm.trans (hsame.trans hid))
      omega
  | @revised q d find r now suits held others =>
      by_cases hq : q = p
      · subst hq
        obtain ⟨hsession, hsame⟩ := Archive.path_inj held.path hp
        have hfound : Archive.find? s.disk c.session c.id = .ok (some d) := by
          rw [← hsession, ← hsame]
          exact find
        rw [hfind] at hfound
        obtain rfl : c = d := Option.some.inj (Except.ok.inj hfound)
        obtain ⟨hrevised, hgrows⟩ := suits.grows hregular now
        exact ⟨_, held.find? hrevised.storable, hgrows, Conversation.exists_selected_revise c r now⟩
      · exact hkept (others p hq)
  | removed files =>
      obtain hfile | ⟨-, session', id', hp', hgone'⟩ := files p
      · exact hkept hfile
      · obtain ⟨hsession, hsame⟩ := Archive.path_inj hp hp'
        rw [← hsession, ← hsame] at hgone'
        contradiction

/-! ### Evolving stores -/

/-- A store that goes on with a change. -/
structure Evolves (gone : Text → Text → Prop) (s s' : Store) : Prop where
  continues : s.Continues s'
  change : Change gone s s'

variable {gone : Text → Text → Prop}

/-- Nothing happens to the files. -/
theorem Evolves.of_disk (hd : s'.disk = s.disk) (hs : s'.supply = s.supply)
    (hi : s.ids ≤ s'.ids) :
  Evolves gone s s'
  := ⟨.of_disk hd hs hi, .still fun p _ => by rw [hd]⟩

/-- A store evolves when nothing happens. -/
theorem Evolves.refl (s : Store) :
  Evolves gone s s
  := .of_disk rfl rfl le_rfl

/-- What is remembered of the opening matters to no file. -/
theorem Evolves.of_remembered {m : Option Text}
    (h : Evolves gone { s with remembered := m } s') :
  Evolves gone s s'
  := by
  obtain ⟨⟨hs, hi, hp⟩, hc⟩ := h
  refine ⟨⟨hs, hi, hp⟩, ?_⟩
  cases hc with
  | still files => exact .still files
  | created held regular id given others => exact .created held regular id given others
  | revised find r now suits held others => exact .revised find r now suits held others
  | removed files => exact .removed files

end Store

end BranchingStory
