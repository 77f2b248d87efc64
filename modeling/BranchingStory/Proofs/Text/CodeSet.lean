import BranchingStory.Text.Blank
import BranchingStory.Text.Digit
import Mathlib.Tactic.SplitIfs

/-!
# The members of a set of characters

A set of characters that is given by the codes at which membership changes has the runs of codes
between them as its members.  So what holds of all members is checked on a list of codes, and
whether one set lies in another on the runs of both.
-/

namespace BranchingStory

namespace CodeSet

/-- The runs between the first and the second flip, between the third and the fourth, and so on;
the second code of a run is out again. -/
def runs : (flips : List Nat) → List (Nat × Nat)
  | a :: b :: flips => (a, b) :: runs flips
  | _ => []

/-- The codes between the first and the second flip, between the third and the fourth, and so
on. -/
def codesBetween : (flips : List Nat) → List Nat
  | a :: b :: flips => List.range' a (b - a) ++ codesBetween flips
  | _ => []

variable {flips : List Nat} {c : Char}

/-- A run begins where the set flips. -/
theorem mem_of_mem_runs {r : Nat × Nat} (h : r ∈ runs flips) :
  r.1 ∈ flips
  := by
  induction flips using runs.induct with
  | case1 a b flips ih =>
      rw [runs] at h
      obtain rfl | h := List.mem_cons.mp h
      · apply List.mem_cons_self
      · exact List.mem_cons_of_mem _ (List.mem_cons_of_mem _ (ih h))
  | case2 flips hflips =>
      rw [runs] at h
      · cases h
      · exact hflips

theorem mem_codesBetween_of_mem_runs {r : Nat × Nat} (h : r ∈ runs flips) {n : Nat} (ha : r.1 ≤ n)
    (hb : n < r.2) :
  n ∈ codesBetween flips
  := by
  induction flips using runs.induct with
  | case1 a b flips ih =>
      rw [codesBetween, List.mem_append, List.mem_range'_1]
      rw [runs] at h
      obtain rfl | h := List.mem_cons.mp h
      · left
        dsimp only at ha hb
        omega
      · exact Or.inr (ih h)
  | case2 flips hflips =>
      rw [runs] at h
      · cases h
      · exact hflips

/-- Where membership changes an even number of times a member lies in one of the runs. -/
theorem exists_mem_runs (hn : flips.length % 2 = 0) (h : contains ⟨flips⟩ c = true) :
  ∃ r ∈ runs flips, r.1 ≤ c.toNat ∧ c.toNat < r.2
  := by
  induction flips using runs.induct with
  | case1 a b flips ih =>
      rw [runs]
      simp only [contains, List.takeWhile_cons] at h
      split_ifs at h with ha hb
      · simp only [List.length_cons, beq_iff_eq] at hn h
        obtain ⟨r, hr, hc⟩ := ih (by omega) (by
          simp only [contains, beq_iff_eq]
          omega)
        exact ⟨r, List.mem_cons_of_mem _ hr, hc⟩
      · simp only [decide_eq_true_eq] at ha hb
        exact ⟨(a, b), List.mem_cons_self, ha, by omega⟩
      · simp at h
  | case2 flips hflips =>
      cases flips with
      | nil => simp [contains] at h
      | cons a flips =>
          cases flips with
          | nil => simp at hn
          | cons b flips => exact absurd rfl (hflips a b flips)

/-- The members are among the codes between the flips. -/
theorem mem_codesBetween (hn : flips.length % 2 = 0) (h : contains ⟨flips⟩ c = true) :
  c.toNat ∈ codesBetween flips
  := by
  obtain ⟨r, hr, ha, hb⟩ := exists_mem_runs hn h
  exact mem_codesBetween_of_mem_runs hr ha hb

/-- What lies in one of the runs of rising flips is a member. -/
theorem contains_of_mem_runs (hs : flips.Pairwise (· < ·)) {r : Nat × Nat} (hr : r ∈ runs flips)
    (ha : r.1 ≤ c.toNat) (hb : c.toNat < r.2) :
  contains ⟨flips⟩ c = true
  := by
  induction flips using runs.induct with
  | case1 a b flips ih =>
      rw [runs] at hr
      obtain ⟨ha', hs⟩ := List.pairwise_cons.mp hs
      obtain ⟨hb', hs⟩ := List.pairwise_cons.mp hs
      obtain rfl | hr := List.mem_cons.mp hr
      · have hb : ¬ b ≤ c.toNat := Nat.not_le.mpr hb
        simp [contains, ha, hb]
      · have hbr := hb' _ (mem_of_mem_runs hr)
        have hab := ha' b List.mem_cons_self
        have hrest := ih hs hr
        simp only [contains, beq_iff_eq] at hrest ⊢
        rw [List.takeWhile_cons_of_pos (by simpa using by omega),
          List.takeWhile_cons_of_pos (by simpa using by omega)]
        simp only [List.length_cons]
        omega
  | case2 flips hflips =>
      rw [runs] at hr
      · cases hr
      · exact hflips

/-- A set whose runs lie in those of another one lies in that one. -/
theorem contains_of_runs {s t : CodeSet} (hn : s.flips.length % 2 = 0)
    (ht : t.flips.Pairwise (· < ·))
    (h : ∀ r ∈ runs s.flips, ∃ q ∈ runs t.flips, q.1 ≤ r.1 ∧ r.2 ≤ q.2)
    (hc : s.contains c = true) :
  t.contains c = true
  := by
  obtain ⟨r, hr, ha, hb⟩ := exists_mem_runs hn hc
  obtain ⟨q, hq, hqa, hqb⟩ := h r hr
  exact contains_of_mem_runs ht hq (Nat.le_trans hqa ha) (Nat.lt_of_lt_of_le hb hqb)

end CodeSet

/-! ### Digits -/

variable {c : Char}

/-- A blank does not look like a digit. -/
theorem isDigitLike_of_isBlank (h : isBlank c = true) :
  isDigitLike c = false
  := by
  have hblanks : ∀ n ∈ CodeSet.codesBetween blankSet.flips,
      isDigitLike (Char.ofNat n) = false := by
    decide +kernel
  have hc := hblanks _ (CodeSet.mem_codesBetween rfl h)
  rwa [Char.ofNat_toNat] at hc

/-- A decimal digit looks like a digit. -/
theorem isDigitLike_of_decimalValue? {d : Nat} (h : decimalValue? c = some d) :
  isDigitLike c = true
  := by
  have hmember : decimalSet.contains c = true := by
    unfold decimalValue? at h
    dsimp only at h
    split_ifs at h with hodd
    exact hodd
  apply CodeSet.contains_of_runs _ _ _ hmember
  · decide +kernel
  · decide +kernel
  · decide +kernel

end BranchingStory
