import BranchingStory.Json.Alike
import BranchingStory.Proofs.Json.Proper

/-!
# What cannot be written

A value is written unless something in it cannot be: an integer of more than 4300 decimal digits,
or an array or object that lies inside too many others.  What a value is refused for is one of
these, wherever it lies.
-/

namespace BranchingStory

namespace Json

/-- What lies in a value, inside so many arrays and objects of it. -/
inductive LiesIn (w : Json) : (level : Nat) → Json → Prop where
  | here : LiesIn w 0 w
  | item {k : Nat} {v : Json} {vs : List Json} (hv : v ∈ vs) (h : LiesIn w k v) :
    LiesIn w (k + 1) (.arr vs)
  | member {k : Nat} {m : Str × Json} {ms : List (Str × Json)} (hm : m ∈ ms) (h : LiesIn w k m.2) :
    LiesIn w (k + 1) (.obj ms)

/-- What cannot be written inside so many arrays and objects, where there is room for `room` of
them inside one another, and why. -/
inductive Unwritable (room : Nat) : (level : Nat) → Json → ReadFault → Prop where
  | long {k : Nat} {n : Int} (h : 10 ^ 4300 ≤ n.natAbs) :
    Unwritable room k (.int n) (.integerTooLong (decimalDigits n.natAbs).length)
  | deep {k : Nat} {w : Json} (hw : w.isCompound = true) (h : room ≤ k) :
    Unwritable room k w .tooDeep

variable {room k : Nat} {v w : Json} {f : ReadFault}

/-- One more level in needs one more of the room. -/
theorem unwritable_succ_iff :
  Unwritable (room + 1) (k + 1) w f ↔ Unwritable room k w f
  := by
  constructor
  · intro h
    cases h with
    | long h => exact .long h
    | deep hw h => exact .deep hw (Nat.le_of_succ_le_succ h)
  · intro h
    cases h with
    | long h => exact .long h
    | deep hw h => exact .deep hw (Nat.succ_le_succ h)

/-! ### What is found is there -/

/-- What is found in items is found in one of them. -/
theorem exists_of_excessItem? {vs : List Json} (h : excessItem? room vs = some f) :
  ∃ v ∈ vs, v.excess? room = some f
  := by
  induction vs with
  | nil => cases h
  | cons v vs ih =>
      rw [excessItem?, Option.orElse_eq_some] at h
      obtain h | ⟨-, h⟩ := h
      · exact ⟨v, List.mem_cons_self, h⟩
      · obtain ⟨u, hu, h⟩ := ih h
        exact ⟨u, List.mem_cons_of_mem _ hu, h⟩

/-- What is found in members is found in the value of one of them. -/
theorem exists_of_excessMember? {ms : List (Str × Json)} (h : excessMember? room ms = some f) :
  ∃ m ∈ ms, m.2.excess? room = some f
  := by
  induction ms with
  | nil => cases h
  | cons m ms ih =>
      rw [excessMember?, Option.orElse_eq_some] at h
      obtain h | ⟨-, h⟩ := h
      · exact ⟨m, List.mem_cons_self, h⟩
      · obtain ⟨n, hn, h⟩ := ih h
        exact ⟨n, List.mem_cons_of_mem _ hn, h⟩

/-- An integer can only be too long. -/
theorem long_of_excess?_int {n : Int} (h : (int n).excess? room = some f) :
  Unwritable room 0 (int n) f
  := by
  rw [excess?] at h
  split_ifs at h with hlong
  · obtain rfl := Option.some.inj h
    apply Unwritable.long
    rw [Reader.integerLimit, ← Nat.not_le, length_decimalDigits_le_iff (by decide)] at hlong
    exact Nat.le_of_not_lt hlong

/-- What a value is refused for lies in it. -/
theorem exists_of_excess? {v : Json} {room : Nat} (h : v.excess? room = some f) :
  ∃ w k, w.LiesIn k v ∧ Unwritable room k w f
  := by
  match v, room with
  | null, room => cases room <;> cases h
  | bool _, room => cases room <;> cases h
  | float _, room => cases room <;> cases h
  | str _, room => cases room <;> cases h
  | int n, room => exact ⟨_, 0, .here, long_of_excess?_int h⟩
  | arr vs, 0 =>
      obtain rfl := Option.some.inj h
      exact ⟨_, 0, .here, .deep rfl (Nat.le_refl 0)⟩
  | obj ms, 0 =>
      obtain rfl := Option.some.inj h
      exact ⟨_, 0, .here, .deep rfl (Nat.le_refl 0)⟩
  | arr vs, room + 1 =>
      rw [excess?] at h
      obtain ⟨v, hv, h⟩ := exists_of_excessItem? h
      obtain ⟨w, k, hw, h⟩ := exists_of_excess? h
      exact ⟨w, k + 1, .item hv hw, unwritable_succ_iff.mpr h⟩
  | obj ms, room + 1 =>
      rw [excess?] at h
      obtain ⟨m, hm, h⟩ := exists_of_excessMember? h
      obtain ⟨w, k, hw, h⟩ := exists_of_excess? h
      exact ⟨w, k + 1, .member hm hw, unwritable_succ_iff.mpr h⟩
termination_by room

/-! ### What is there is found -/

/-- A value in which something cannot be written is refused. -/
theorem LiesIn.excess?_ne_none (hw : w.LiesIn k v) (h : Unwritable room k w f) :
  v.excess? room ≠ none
  := by
  induction hw generalizing room with
  | here =>
      cases h with
      | long h =>
          rw [excess?, if_pos]
          · exact Option.some_ne_none _
          · rw [Reader.integerLimit, ← Nat.not_le, length_decimalDigits_le_iff (by decide)]
            exact Nat.not_lt_of_le h
      | deep hw h =>
          obtain rfl := Nat.le_zero.mp h
          cases w with
          | arr vs => exact Option.some_ne_none _
          | obj ms => exact Option.some_ne_none _
          | null | bool _ | int _ | float _ | str _ => cases hw
  | item hv _ ih =>
      cases room with
      | zero => exact Option.some_ne_none _
      | succ room =>
          rw [excess?]
          exact fun hnone =>
            ih (unwritable_succ_iff.mp h) (excessItem?_eq_none.mp hnone _ hv)
  | member hm _ ih =>
      cases room with
      | zero => exact Option.some_ne_none _
      | succ room =>
          rw [excess?]
          exact fun hnone =>
            ih (unwritable_succ_iff.mp h) (excessMember?_eq_none.mp hnone _ hm)

/-- What is written where there is some room is written where there is more. -/
theorem excess?_eq_none_of_le {more : Nat} (hle : room ≤ more) (h : v.excess? room = none) :
  v.excess? more = none
  := by
  cases he : v.excess? more with
  | none => rfl
  | some f =>
      obtain ⟨w, k, hw, hf⟩ := exists_of_excess? he
      have hless : Unwritable room k w f := by
        cases hf with
        | long h => exact .long h
        | deep hc h => exact .deep hc (Nat.le_trans hle h)
      exact absurd h (hw.excess?_ne_none hless)

end Json

end BranchingStory
