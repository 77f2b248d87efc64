import BranchingStory.Entries
import Mathlib.Data.List.Nodup
import Mathlib.Tactic.SplitIfs

/-!
# Entries with different keys

What looking up, putting and reading pairs do when every key stands once.
-/

namespace BranchingStory

namespace Entries

variable {κ α β : Type} [DecidableEq κ]

/-- Nothing is looked up where there are no entries. -/
@[simp]
theorem get?_nil (key : κ) :
  get? ([] : List (κ × α)) key = none
  := rfl

/-- The first entry is looked up under its key, and the others under other keys. -/
theorem get?_cons (e : κ × α) (es : List (κ × α)) (key : κ) :
  get? (e :: es) key = if e.1 = key then some e.2 else get? es key
  := by
  by_cases h : e.1 = key
  · simp [get?, h]
  · simp [get?, h]

omit [DecidableEq κ] in
/-- Changing the values leaves the keys. -/
theorem keys_mapValues (f : α → β) (es : List (κ × α)) :
  (mapValues f es).map (·.1) = es.map (·.1)
  := by
  simp [mapValues]

omit [DecidableEq κ] in
/-- Entries whose values go, or give way to others, leave the keys that are left in their order. -/
theorem keys_filterMap_sublist (f : α → Option β) (es : List (κ × α)) :
  ((es.filterMap fun e => (f e.2).map fun b => (e.1, b)).map (·.1)).Sublist (es.map (·.1))
  := by
  induction es with
  | nil => apply List.Sublist.refl
  | cons e es ih =>
      cases h : f e.2 with
      | none => simpa [h] using ih.cons e.1
      | some b => simpa [h] using ih.cons_cons e.1

/-- A changed value is looked up under its old key. -/
theorem get?_mapValues (f : α → β) (es : List (κ × α)) (key : κ) :
  get? (mapValues f es) key = (get? es key).map f
  := by
  induction es with
  | nil => rfl
  | cons e es ih =>
      have hcons : mapValues f (e :: es) = (e.1, f e.2) :: mapValues f es := rfl
      rw [hcons, get?_cons, get?_cons, ih]
      split_ifs
      · rfl
      · rfl

/-- What is looked up stands there as an entry. -/
theorem mem_of_get? {es : List (κ × α)} {key : κ} {a : α} (h : get? es key = some a) :
  (key, a) ∈ es
  := by
  induction es with
  | nil => simp at h
  | cons e es ih =>
      rw [get?_cons] at h
      split at h
      · next hk =>
        obtain rfl := Option.some.inj h
        rw [← hk]
        apply List.mem_cons_self
      · apply List.mem_cons_of_mem _ (ih h)

/-- Nothing is looked up under a key that is not there. -/
theorem get?_of_notMem {es : List (κ × α)} {key : κ} (h : key ∉ es.map (·.1)) :
  get? es key = none
  := by
  cases hget : get? es key with
  | none => rfl
  | some a => exact absurd (List.mem_map_of_mem (mem_of_get? hget)) h

/-- Something is looked up under the key of every entry. -/
theorem isSome_get?_of_mem {e : κ × α} {es : List (κ × α)} (h : e ∈ es) :
  (get? es e.1).isSome = true
  := by
  rw [get?, Option.isSome_map, List.find?_isSome]
  exact ⟨e, h, beq_self_eq_true e.1⟩

/-- Something is looked up under the keys that are there, and under no others. -/
theorem isSome_get?_iff {es : List (κ × α)} {key : κ} :
  (get? es key).isSome = true ↔ key ∈ es.map (·.1)
  := by
  constructor
  · intro h
    obtain ⟨a, ha⟩ := Option.isSome_iff_exists.mp h
    exact List.mem_map_of_mem (mem_of_get? ha)
  · intro h
    obtain ⟨e, he, rfl⟩ := List.mem_map.mp h
    exact isSome_get?_of_mem he

theorem hasKey_iff {es : List (κ × α)} {key : κ} :
  hasKey es key = true ↔ key ∈ es.map (·.1)
  := by
  simp only [hasKey, List.any_eq_true, beq_iff_eq, List.mem_map]

/-- Where every key stands once, its value is what stands beside it. -/
theorem get?_eq_some_iff {es : List (κ × α)} (hn : (es.map (·.1)).Nodup) {key : κ} {a : α} :
  get? es key = some a ↔ (key, a) ∈ es
  := by
  refine ⟨mem_of_get?, fun h => ?_⟩
  induction es with
  | nil => cases h
  | cons e es ih =>
      rw [List.map_cons, List.nodup_cons] at hn
      rw [get?_cons]
      obtain rfl | h := List.mem_cons.mp h
      · rw [if_pos rfl]
      · have hne : e.1 ≠ key := by
          rintro rfl
          exact hn.1 (List.mem_map.mpr ⟨_, h, rfl⟩)
        rw [if_neg hne, ih hn.2 h]

/-- The order of the keys does not matter to their values. -/
theorem get?_perm {es fs : List (κ × α)} (h : es.Perm fs) (hn : (es.map (·.1)).Nodup) (key : κ) :
  get? es key = get? fs key
  := by
  apply Option.ext
  intro a
  rw [get?_eq_some_iff hn, get?_eq_some_iff ((h.map _).nodup_iff.mp hn), h.mem_iff]

/-- Entries with the same different keys are the same when their keys have the same values. -/
theorem eq_of_get? {es fs : List (κ × α)} (hkeys : es.map (·.1) = fs.map (·.1))
    (hn : (es.map (·.1)).Nodup) (h : ∀ key ∈ es.map (·.1), get? es key = get? fs key) :
  es = fs
  := by
  induction es generalizing fs with
  | nil => exact (List.map_eq_nil_iff.mp hkeys.symm).symm
  | cons e es ih =>
      cases fs with
      | nil => cases hkeys
      | cons f fs =>
          obtain ⟨hkey, hkeys⟩ := List.cons.inj hkeys
          rw [List.map_cons, List.nodup_cons] at hn
          have hhead := h e.1 List.mem_cons_self
          rw [get?_cons, get?_cons, if_pos rfl, if_pos hkey.symm] at hhead
          have hrest : es = fs := by
            apply ih hkeys hn.2
            intro key hk
            have hne : e.1 ≠ key := by
              rintro rfl
              exact hn.1 hk
            have htail := h key (List.mem_cons_of_mem _ hk)
            have hne' : f.1 ≠ key := fun he => hne (hkey.trans he)
            rwa [get?_cons, get?_cons, if_neg hne, if_neg hne'] at htail
          rw [hrest, Prod.ext hkey (Option.some.inj hhead)]

/-- What was put is found, and everything else as before. -/
theorem get?_put (key other : κ) (a : α) (es : List (κ × α)) :
  get? (put key a es) other = if key = other then some a else get? es other
  := by
  induction es with
  | nil => simp [put, get?_cons]
  | cons e es ih =>
      rw [put]
      by_cases h : e.1 = key
      · rw [if_pos h, get?_cons, get?_cons, h]
        split <;> rfl
      · rw [if_neg h, get?_cons, get?_cons, ih]
        by_cases ho : e.1 = other
        · simp [ho, Ne.symm (ho ▸ h)]
        · simp [ho]

/-- What was taken away is not found, and everything else as before. -/
theorem get?_erase (key other : κ) (es : List (κ × α)) :
  get? (erase key es) other = if key = other then none else get? es other
  := by
  induction es with
  | nil => simp [erase]
  | cons e es ih =>
      by_cases h : e.1 = key
      · have herase : erase key (e :: es) = erase key es := by simp [erase, h]
        rw [herase, ih, get?_cons, h]
        split_ifs <;> rfl
      · have herase : erase key (e :: es) = e :: erase key es := by simp [erase, h]
        rw [herase, get?_cons, get?_cons, ih]
        by_cases ho : e.1 = other
        · simp [ho, Ne.symm (ho ▸ h)]
        · simp [ho]

/-- A new key goes last. -/
theorem put_of_notMem {key : κ} {es : List (κ × α)} (h : key ∉ es.map (·.1)) (a : α) :
  put key a es = es ++ [(key, a)]
  := by
  induction es with
  | nil => rfl
  | cons e es ih =>
      rw [List.map_cons, List.mem_cons, not_or] at h
      rw [put, if_neg (Ne.symm h.1), ih h.2]
      rfl

/-- Putting keeps the keys that are there, and a new key goes last. -/
theorem keys_put (key : κ) (a : α) (es : List (κ × α)) :
  (put key a es).map (·.1)
    = if key ∈ es.map (·.1) then es.map (·.1) else es.map (·.1) ++ [key]
  := by
  induction es with
  | nil => rfl
  | cons e es ih =>
      rw [put]
      by_cases h : e.1 = key
      · simp [h]
      · rw [if_neg h, List.map_cons, ih, List.map_cons]
        by_cases hk : key ∈ es.map (·.1)
        · rw [if_pos hk, if_pos (List.mem_cons_of_mem _ hk)]
        · rw [if_neg hk, if_neg (by simpa [Ne.symm h] using hk)]
          rfl

/-- Up to the order, what is put stands beside what is left without its key. -/
theorem put_perm {es : List (κ × α)} (hn : (es.map (·.1)).Nodup) (key : κ) (a : α) :
  (put key a es).Perm ((key, a) :: erase key es)
  := by
  induction es with
  | nil => exact List.Perm.refl _
  | cons e es ih =>
      rw [List.map_cons, List.nodup_cons] at hn
      rw [put, erase]
      split_ifs with h
      · rw [List.filter_cons_of_neg (by simp [h]), List.filter_eq_self.mpr]
        intro d hd
        have hne : d.1 ≠ key := by
          rintro rfl
          exact hn.1 (h ▸ List.mem_map_of_mem hd)
        simpa using hne
      · rw [List.filter_cons_of_pos (by simpa using h)]
        exact ((ih hn.2).cons e).trans (List.Perm.swap _ _ _)

/-- Putting leaves every key in one place. -/
theorem nodup_put {es : List (κ × α)} (hn : (es.map (·.1)).Nodup) (key : κ) (a : α) :
  ((put key a es).map (·.1)).Nodup
  := by
  rw [keys_put]
  split_ifs with h
  · apply hn
  · rw [← List.concat_eq_append]
    apply hn.concat h

/-- What stands there after putting was put or stood there before. -/
theorem mem_put {key : κ} {es : List (κ × α)} {a : α} {e : κ × α} (h : e ∈ put key a es) :
  e = (key, a) ∨ e ∈ es
  := by
  induction es with
  | nil => simpa [put] using h
  | cons d es ih =>
      rw [put] at h
      split at h
      · obtain rfl | h := List.mem_cons.mp h
        · left
          rfl
        · right
          apply List.mem_cons_of_mem _ h
      · obtain rfl | h := List.mem_cons.mp h
        · right
          apply List.mem_cons_self
        · obtain h | h := ih h
          · left
            apply h
          · right
            apply List.mem_cons_of_mem _ h

/-- Pairs with new keys that differ are put behind what is there. -/
theorem foldl_put (acc : List (κ × α)) {es : List (κ × α)} (h : ((acc ++ es).map (·.1)).Nodup) :
  es.foldl (fun es p => put p.1 p.2 es) acc = acc ++ es
  := by
  induction es generalizing acc with
  | nil => simp
  | cons e es ih =>
      have hnot : e.1 ∉ acc.map (·.1) := by
        rw [List.map_append, List.map_cons] at h
        intro he
        apply (List.nodup_append.mp h).2.2 _ he _ List.mem_cons_self rfl
      rw [List.foldl_cons, put_of_notMem hnot, ih]
      · simp
      · simpa using h

/-- A map that pairs describe has every key once. -/
theorem nodup_ofPairs (pairs : List (κ × α)) :
  ((ofPairs pairs).map (·.1)).Nodup
  := by
  have h (acc : List (κ × α)) (hn : (acc.map (·.1)).Nodup) :
      ((pairs.foldl (fun es p => put p.1 p.2 es) acc).map (·.1)).Nodup := by
    induction pairs generalizing acc with
    | nil => apply hn
    | cons p pairs ih => apply ih _ (nodup_put hn p.1 p.2)
  apply h [] List.nodup_nil

theorem mem_foldl_put {acc pairs : List (κ × α)} {e : κ × α}
    (h : e ∈ pairs.foldl (fun es p => put p.1 p.2 es) acc) :
  e ∈ acc ∨ e ∈ pairs
  := by
  induction pairs generalizing acc with
  | nil =>
      left
      exact h
  | cons p pairs ih =>
      obtain hput | hmem := ih h
      · obtain rfl | hmem := mem_put hput
        · right
          exact List.mem_cons_self
        · left
          exact hmem
      · right
        exact List.mem_cons_of_mem _ hmem

/-- The entries of the map that pairs describe are among the pairs. -/
theorem mem_ofPairs {pairs : List (κ × α)} {e : κ × α} (h : e ∈ ofPairs pairs) :
  e ∈ pairs
  := (mem_foldl_put h).resolve_left List.not_mem_nil

/-- Pairs with different keys are their own map. -/
theorem ofPairs_of_nodup {es : List (κ × α)} (h : (es.map (·.1)).Nodup) :
  ofPairs es = es
  := by
  apply foldl_put []
  simpa using h

/-! ### Other values -/

omit [DecidableEq κ] in
/-- The entries with other values for some keys. -/
def override (f : κ → Option α) (es : List (κ × α)) : List (κ × α) :=
  es.map fun e => (e.1, (f e.1).getD e.2)

omit [DecidableEq κ] in
/-- Other values leave the keys. -/
theorem keys_override (f : κ → Option α) (es : List (κ × α)) :
  (override f es).map (·.1) = es.map (·.1)
  := by
  simp [override]

/-- The value for a key is the other one, if it has one. -/
theorem get?_override (f : κ → Option α) (es : List (κ × α)) (key : κ) :
  get? (override f es) key = (get? es key).map (f key).getD
  := by
  induction es with
  | nil => rfl
  | cons e es ih =>
      have hcons : override f (e :: es) = (e.1, (f e.1).getD e.2) :: override f es := rfl
      rw [hcons, get?_cons, get?_cons, ih]
      split_ifs with he
      · rw [Option.map_some, ← he]
      · rfl

/-! ### Some of the keys -/

omit [DecidableEq κ] in
/-- The entries of some keys. -/
def restrict (P : κ → Bool) (es : List (κ × α)) : List (κ × α) :=
  es.filter fun e => P e.1

variable {P : κ → Bool} {key : κ}

omit [DecidableEq κ] in
theorem restrict_cons (P : κ → Bool) (e : κ × α) (es : List (κ × α)) :
  restrict P (e :: es) = if P e.1 then e :: restrict P es else restrict P es
  := List.filter_cons

/-- Among the entries of some keys each of these keys has its value. -/
theorem get?_restrict (h : P key = true) (es : List (κ × α)) :
  get? (restrict P es) key = get? es key
  := by
  induction es with
  | nil => rfl
  | cons e es ih =>
      rw [restrict_cons, get?_cons]
      split_ifs with hP he he
      · rw [get?_cons, if_pos he]
      · rw [get?_cons, if_neg he, ih]
      · exact absurd h (he ▸ hP)
      · exact ih

/-- One of some keys is put among their entries. -/
theorem restrict_put (h : P key = true) (a : α) (es : List (κ × α)) :
  restrict P (put key a es) = put key a (restrict P es)
  := by
  induction es with
  | nil => simp [restrict, put, h]
  | cons e es ih =>
      rw [restrict_cons, put]
      split_ifs with he hP hP
      · rw [restrict_cons, if_pos h, put, if_pos he]
      · exact absurd h (he ▸ hP)
      · rw [restrict_cons, if_pos hP, put, if_neg he, ih]
      · rw [restrict_cons, if_neg hP, ih]

/-- Putting another key leaves the entries of some keys. -/
theorem restrict_put_of_not (h : P key = false) (a : α) (es : List (κ × α)) :
  restrict P (put key a es) = restrict P es
  := by
  induction es with
  | nil => simp [restrict, put, h]
  | cons e es ih =>
      rw [restrict_cons, put]
      split_ifs with he hP hP
      · rw [he, h] at hP
        cases hP
      · rw [restrict_cons, if_neg (by simp [h])]
      · rw [restrict_cons, if_pos hP, ih]
      · rw [restrict_cons, if_neg hP, ih]

/-- The same put among other entries of the same keys. -/
theorem restrict_put_congr {es fs : List (κ × α)} (h : restrict P es = restrict P fs) (a : α) :
  restrict P (put key a es) = restrict P (put key a fs)
  := by
  cases hP : P key with
  | true => rw [restrict_put hP, restrict_put hP, h]
  | false => rw [restrict_put_of_not hP, restrict_put_of_not hP, h]

/-- Restricting and erasing may be done in either order. -/
theorem restrict_erase (P : κ → Bool) (key : κ) (es : List (κ × α)) :
  restrict P (erase key es) = erase key (restrict P es)
  := List.filter_comm _ _ es

/-- Taking another key away leaves the entries of some keys. -/
theorem restrict_erase_of_not (h : P key = false) (es : List (κ × α)) :
  restrict P (erase key es) = restrict P es
  := by
  rw [restrict, erase, List.filter_filter]
  apply List.filter_congr
  intro e _
  by_cases hk : e.1 = key
  · simp [hk, h]
  · simp [hk]

end Entries

end BranchingStory
