import BranchingStory.Proofs.Record.ReadBack

/-!
# Proper values

A value is proper when its objects have each member once, its binary64 numbers are those of the
format and its strings are proper.  Merging members makes a value proper: `Json.Fits.merged`.  And a
proper value that is written in a layout with words for all numbers is read back, unless something
in it is beyond the limits: `Json.IsProper.readMerged_write`.
-/

namespace BranchingStory

namespace Json

/-- A value whose objects have each member once, with binary64 numbers of the format and proper
strings. -/
structure IsProper (v : Json) : Prop where
  merged : v.merged = v
  floats : ∀ x ∈ v.floats, x.IsProper
  strs : ∀ s ∈ v.strs, s.IsProper

variable {v : Json}

/-! ### Items and members -/

section

variable {vs : List Json} {ms : List (Str × Json)} {k : Str} {x : Binary64}

/-- Items are merged one by one. -/
theorem mergedItems_eq (vs : List Json) :
  mergedItems vs = vs.map merged
  := by
  induction vs with
  | nil => rfl
  | cons v vs ih => rw [mergedItems, ih, List.map_cons]

/-- The values of members are merged one by one. -/
theorem mergedMembers_eq (ms : List (Str × Json)) :
  mergedMembers ms = Entries.mapValues merged ms
  := by
  induction ms with
  | nil => rfl
  | cons m ms ih =>
      rw [mergedMembers, ih]
      rfl

/-- The binary64 numbers in items are those in any of them. -/
theorem mem_floatsItems :
  x ∈ floatsItems vs ↔ ∃ v ∈ vs, x ∈ v.floats
  := by
  induction vs with
  | nil => simp [floatsItems]
  | cons v vs ih => simp [floatsItems, ih]

/-- The binary64 numbers in members are those in any of their values. -/
theorem mem_floatsMembers :
  x ∈ floatsMembers ms ↔ ∃ m ∈ ms, x ∈ m.2.floats
  := by
  induction ms with
  | nil => simp [floatsMembers]
  | cons m ms ih => simp [floatsMembers, ih]

/-- An array is proper when its items are. -/
theorem isProper_arr :
  (arr vs).IsProper ↔ ∀ v ∈ vs, v.IsProper
  := by
  constructor
  · intro h v hv
    have hmerged : vs.map merged = vs.map id := by
      have harr := h.merged
      rw [merged, mergedItems_eq] at harr
      rw [List.map_id]
      exact Json.arr.inj harr
    exact ⟨List.map_inj_left.mp hmerged v hv,
      fun x hx => h.floats x (mem_floatsItems.mpr ⟨v, hv, hx⟩),
      fun s hs => h.strs s (mem_strsOfItems.mpr ⟨v, hv, hs⟩)⟩
  · intro h
    refine ⟨?_, fun x hx => ?_, fun s hs => ?_⟩
    · rw [merged, mergedItems_eq, List.map_congr_left fun v hv => (h v hv).merged, List.map_id']
    · obtain ⟨v, hv, hx⟩ := mem_floatsItems.mp hx
      exact (h v hv).floats x hx
    · obtain ⟨v, hv, hs⟩ := mem_strsOfItems.mp hs
      exact (h v hv).strs s hs

/-- An object is proper when each of its members stands once and has a proper name and value. -/
theorem isProper_obj :
  (obj ms).IsProper ↔ (ms.map (·.1)).Nodup ∧ ∀ m ∈ ms, m.1.IsProper ∧ m.2.IsProper
  := by
  constructor
  · intro h
    have hmerged : Entries.ofPairs (Entries.mapValues Json.merged ms) = ms := by
      have hobj := h.merged
      rw [Json.merged, mergedMembers_eq] at hobj
      exact Json.obj.inj hobj
    have hn : (ms.map (·.1)).Nodup := by
      rw [← hmerged]
      apply Entries.nodup_ofPairs
    have hvalues : ms.map (fun m => (m.1, m.2.merged)) = ms.map id := by
      rw [Entries.ofPairs_of_nodup (by rwa [Entries.keys_mapValues])] at hmerged
      rw [List.map_id]
      exact hmerged
    refine ⟨hn, fun m hm => ⟨?_, ?_, fun x hx => ?_, fun s hs => ?_⟩⟩
    · exact h.strs m.1 (mem_strsOfMembers.mpr ⟨m, hm, Or.inl rfl⟩)
    · exact congrArg Prod.snd (List.map_inj_left.mp hvalues m hm)
    · exact h.floats x (mem_floatsMembers.mpr ⟨m, hm, hx⟩)
    · exact h.strs s (mem_strsOfMembers.mpr ⟨m, hm, Or.inr hs⟩)
  · rintro ⟨hn, hms⟩
    refine ⟨merged_obj hn fun m hm => (hms m hm).2.merged, fun x hx => ?_, fun s hs => ?_⟩
    · obtain ⟨m, hm, hx⟩ := mem_floatsMembers.mp hx
      exact (hms m hm).2.floats x hx
    · obtain ⟨m, hm, rfl | hs⟩ := mem_strsOfMembers.mp hs
      · exact (hms m hm).1
      · exact (hms m hm).2.strs s hs

/-- A proper object has every member once. -/
theorem IsProper.nodup (h : (obj ms).IsProper) :
  (ms.map (·.1)).Nodup
  := (isProper_obj.mp h).1

/-- What is looked up in a proper object is proper. -/
theorem IsProper.of_get? (h : (obj ms).IsProper) (hv : Entries.get? ms k = some v) :
  v.IsProper
  := ((isProper_obj.mp h).2 _ (Entries.mem_of_get? hv)).2

/-- A value without numbers whose members are not repeated and whose strings are texts is proper. -/
theorem Flat.isProper {n : Nat} (h : Flat n v) (hm : v.merged = v) :
  v.IsProper
  := by
  have hfloats := (excess?_of_numberFree v h.numberFree (v.depth + 1) (Nat.lt_succ_self _)).2
  exact ⟨hm, by simp [hfloats],
    fun s hs => s.isProper_of_hasHalf (hasHalf_eq_false.mp h.hasHalf s hs)⟩

end

/-! ### Merging -/

section

variable {room : Nat} {vs : List Json} {ms : List (Str × Json)}

/-- Items are within the limits when all of them are. -/
theorem excessItem?_eq_none :
  excessItem? room vs = none ↔ ∀ v ∈ vs, v.excess? room = none
  := by
  induction vs with
  | nil => simp [excessItem?]
  | cons v vs ih => rw [excessItem?, Option.orElse_eq_none, ih, List.forall_mem_cons]

/-- Members are within the limits when all of their values are. -/
theorem excessMember?_eq_none :
  excessMember? room ms = none ↔ ∀ m ∈ ms, m.2.excess? room = none
  := by
  induction ms with
  | nil => simp [excessMember?]
  | cons m ms ih => rw [excessMember?, Option.orElse_eq_none, ih, List.forall_mem_cons]

/-- A value with binary64 numbers of the format and proper strings in which nothing is beyond the
limits. -/
structure Fits (room : Nat) (v : Json) : Prop where
  excess : v.excess? room = none
  floats : ∀ x ∈ v.floats, x.IsProper
  strs : ∀ s ∈ v.strs, s.IsProper

instance (room : Nat) (v : Json) : Decidable (v.Fits room) :=
  decidable_of_iff
    (v.excess? room = none ∧ (∀ x ∈ v.floats, x.IsProper) ∧ ∀ s ∈ v.strs, s.IsProper)
    ⟨fun h => ⟨h.1, h.2.1, h.2.2⟩, fun h => ⟨h.excess, h.floats, h.strs⟩⟩

/-- What needs no room fits everywhere. -/
theorem Fits.of_zero (h : v.Fits 0) (room : Nat) :
  v.Fits room
  := by
  refine ⟨?_, h.floats, h.strs⟩
  cases v with
  | arr vs => exact nomatch h.excess
  | obj ms => exact nomatch h.excess
  | int n =>
      cases room with
      | zero => exact h.excess
      | succ room => exact h.excess
  | null | bool _ | float _ | str _ =>
      cases room with
      | zero => rfl
      | succ room => rfl

/-- An array fits where its items fit one level further in. -/
theorem fits_arr :
  (arr vs).Fits (room + 1) ↔ ∀ v ∈ vs, v.Fits room
  := by
  constructor
  · intro h v hv
    exact ⟨excessItem?_eq_none.mp h.excess v hv,
      fun x hx => h.floats x (mem_floatsItems.mpr ⟨v, hv, hx⟩),
      fun s hs => h.strs s (mem_strsOfItems.mpr ⟨v, hv, hs⟩)⟩
  · intro h
    refine ⟨excessItem?_eq_none.mpr fun v hv => (h v hv).excess, fun x hx => ?_, fun s hs => ?_⟩
    · obtain ⟨v, hv, hx⟩ := mem_floatsItems.mp hx
      exact (h v hv).floats x hx
    · obtain ⟨v, hv, hs⟩ := mem_strsOfItems.mp hs
      exact (h v hv).strs s hs

/-- An object fits where its values, under proper names, fit one level further in. -/
theorem fits_obj :
  (obj ms).Fits (room + 1) ↔ ∀ m ∈ ms, m.1.IsProper ∧ m.2.Fits room
  := by
  constructor
  · intro h m hm
    exact ⟨h.strs m.1 (mem_strsOfMembers.mpr ⟨m, hm, Or.inl rfl⟩),
      excessMember?_eq_none.mp h.excess m hm,
      fun x hx => h.floats x (mem_floatsMembers.mpr ⟨m, hm, hx⟩),
      fun s hs => h.strs s (mem_strsOfMembers.mpr ⟨m, hm, Or.inr hs⟩)⟩
  · intro h
    refine ⟨excessMember?_eq_none.mpr fun m hm => (h m hm).2.excess, fun x hx => ?_,
      fun s hs => ?_⟩
    · obtain ⟨m, hm, hx⟩ := mem_floatsMembers.mp hx
      exact (h m hm).2.floats x hx
    · obtain ⟨m, hm, rfl | hs⟩ := mem_strsOfMembers.mp hs
      · exact (h m hm).1
      · exact (h m hm).2.strs s hs

end

mutual

/-- A value that fits is proper when its members are merged, and fits as before. -/
theorem Fits.merged : (v : Json) → {room : Nat} → v.Fits room →
  v.merged.IsProper ∧ v.merged.Fits room
  | null, _, h => ⟨⟨rfl, h.floats, h.strs⟩, h⟩
  | bool _, _, h => ⟨⟨rfl, h.floats, h.strs⟩, h⟩
  | int _, _, h => ⟨⟨rfl, h.floats, h.strs⟩, h⟩
  | float _, _, h => ⟨⟨rfl, h.floats, h.strs⟩, h⟩
  | str _, _, h => ⟨⟨rfl, h.floats, h.strs⟩, h⟩
  | arr _, 0, h => nomatch h.excess
  | obj _, 0, h => nomatch h.excess
  | arr vs, room + 1, h => by
      have hvs := Fits.mergedItems vs (fits_arr.mp h)
      rw [Json.merged]
      exact ⟨isProper_arr.mpr fun v hv => (hvs v hv).1, fits_arr.mpr fun v hv => (hvs v hv).2⟩
  | obj ms, room + 1, h => by
      have hms := Fits.mergedMembers ms (fits_obj.mp h)
      have hpairs : ∀ m ∈ Entries.ofPairs (Json.mergedMembers ms),
          m.1.IsProper ∧ m.2.IsProper ∧ m.2.Fits room :=
        fun m hm => hms m (Entries.mem_ofPairs hm)
      rw [Json.merged]
      exact ⟨isProper_obj.mpr
          ⟨Entries.nodup_ofPairs _, fun m hm => ⟨(hpairs m hm).1, (hpairs m hm).2.1⟩⟩,
        fits_obj.mpr fun m hm => ⟨(hpairs m hm).1, (hpairs m hm).2.2⟩⟩

/-- `Fits.merged` for the items of an array. -/
theorem Fits.mergedItems : (vs : List Json) → {room : Nat} → (∀ v ∈ vs, v.Fits room) →
  ∀ v ∈ mergedItems vs, v.IsProper ∧ v.Fits room
  | [], _, _ => nofun
  | v :: vs, _, h => by
      rw [List.forall_mem_cons] at h
      rw [Json.mergedItems, List.forall_mem_cons]
      exact ⟨Fits.merged v h.1, Fits.mergedItems vs h.2⟩

/-- `Fits.merged` for the members of an object. -/
theorem Fits.mergedMembers : (ms : List (Str × Json)) → {room : Nat} →
    (∀ m ∈ ms, m.1.IsProper ∧ m.2.Fits room) →
  ∀ m ∈ mergedMembers ms, m.1.IsProper ∧ m.2.IsProper ∧ m.2.Fits room
  | [], _, _ => nofun
  | (_, v) :: ms, _, h => by
      rw [List.forall_mem_cons] at h
      rw [Json.mergedMembers, List.forall_mem_cons]
      exact ⟨⟨h.1.1, Fits.merged v h.1.2⟩, Fits.mergedMembers ms h.2⟩

end

/-! ### Reading back -/

variable {l : Layout}

/-- A proper value is readable where there is room for it. -/
theorem IsProper.isReadable (h : v.IsProper) (hl : l.numbers.nullForNonFinite = false)
    (room : Room) {depth : Nat} (he : v.excess? depth = none) :
  IsReadable (.ofRoom room) l depth v
  := ⟨he, fun x hx => Reader.spells_floatText rfl hl (h.floats x hx),
      fun s hs => ⟨h.strs s hs, Or.inl rfl⟩⟩

/-- A proper value is read back from its text, unless something in it is beyond the limits. -/
theorem IsProper.readMerged_write (h : v.IsProper) (hl : l.IsGapped)
    (hs : l.numbers.nullForNonFinite = false) {room : Room} (he : v.excess? room.depth = none) :
  Text.unifyNewlines (write l v) = write l v ∧ readMerged room (write l v) = .ok v
  := by
  have hv := h.isReadable hs room he
  refine ⟨unifyNewlines_write_eq hl hv.floats, ?_⟩
  rw [readMerged, read, readWithin_write_eq hl hv, Except.map, h.merged]

end Json

end BranchingStory
