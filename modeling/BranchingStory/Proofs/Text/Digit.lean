import BranchingStory.Text.Digit
import Mathlib.Tactic.Ring

/-!
# Digits of a number

The decimal digits of a number are the only ones that write it and do not begin with a zero that is
not needed.  Zeros in front of digits count for nothing, and those behind them for powers of ten.
-/

namespace BranchingStory

/-! ### The number that digits write -/

/-- Digits in front count as many places more as stand behind them. -/
theorem ofDigits_append (ds es : List Nat) :
  ofDigits (ds ++ es) = ofDigits ds * 10 ^ es.length + ofDigits es
  := by
  -- The digits behind count from wherever the ones in front led.
  have h (n : Nat) : es.foldl (fun n d => 10 * n + d) n = n * 10 ^ es.length + ofDigits es := by
    induction es generalizing n with
    | nil => simp [ofDigits]
    | cons e es ih =>
        rw [ofDigits, List.foldl_cons, List.foldl_cons, ih, ih (10 * 0 + e), List.length_cons]
        ring
  rw [ofDigits, List.foldl_append, h]
  rfl

@[simp]
theorem ofDigits_singleton (d : Nat) :
  ofDigits [d] = d
  := by simp [ofDigits]

/-- Zeros are worth nothing. -/
theorem ofDigits_replicate_zero (k : Nat) :
  ofDigits (List.replicate k 0) = 0
  := by
  induction k with
  | zero => rfl
  | succ k ih => rw [List.replicate_succ', ofDigits_append, ih, ofDigits_singleton, Nat.zero_mul]

/-- Zeros in front count for nothing. -/
theorem ofDigits_zeros_append (k : Nat) (ds : List Nat) :
  ofDigits (List.replicate k 0 ++ ds) = ofDigits ds
  := by rw [ofDigits_append, ofDigits_replicate_zero, Nat.zero_mul, Nat.zero_add]

/-- Zeros behind digits count for powers of ten. -/
theorem ofDigits_append_zeros (ds : List Nat) (k : Nat) :
  ofDigits (ds ++ List.replicate k 0) = ofDigits ds * 10 ^ k
  := by rw [ofDigits_append, ofDigits_replicate_zero, List.length_replicate, Nat.add_zero]

/-- Digits write a number below the power of ten that counts them. -/
theorem ofDigits_lt {ds : List Nat} (h : ∀ d ∈ ds, d < 10) :
  ofDigits ds < 10 ^ ds.length
  := by
  induction ds with
  | nil => decide
  | cons d ds ih =>
      rw [List.forall_mem_cons] at h
      have hd : d * 10 ^ ds.length ≤ 9 * 10 ^ ds.length :=
        Nat.mul_le_mul_right _ (Nat.le_of_lt_succ h.1)
      have hds := ih h.2
      rw [← List.singleton_append, ofDigits_append, ofDigits_singleton, List.length_append,
        List.length_singleton, Nat.pow_add, pow_one]
      omega

/-! ### The digits of a number -/

/-- A number below a power of ten has no more digits than the power counts. -/
theorem length_decimalDigits_le {n k : Nat} (hk : 0 < k) (h : n < 10 ^ k) :
  (decimalDigits n).length ≤ k
  := by
  fun_induction decimalDigits n generalizing k with
  | case1 n _ => exact hk
  | case2 n hn ih =>
      obtain ⟨k, rfl⟩ := Nat.exists_eq_succ_of_ne_zero hk.ne'
      have hpos : 0 < k := by
        by_contra hzero
        obtain rfl : k = 0 := by omega
        omega
      rw [Nat.pow_succ] at h
      rw [List.length_append, List.length_singleton]
      exact Nat.succ_le_succ (ih hpos (by omega))

/-- A digit is read back from its character. -/
theorem asciiDigit?_digitChar {d : Nat} (h : d < 10) :
  asciiDigit? (digitChar d) = some d
  := by
  have hall : ∀ d < 10, asciiDigit? (digitChar d) = some d := by decide
  exact hall d h

/-- The values of the digits of a number, the first of which is a zero for zero only. -/
structure IsDecimal (ds : List Nat) (n : Nat) : Prop where
  small : ∀ d ∈ ds, d < 10
  value : ofDigits ds = n
  lead : ∃ d es, ds = d :: es ∧ (d = 0 → es = [])

/-- The digits of a number are those of their values. -/
theorem exists_isDecimal (n : Nat) :
  ∃ ds, IsDecimal ds n ∧ decimalDigits n = ds.map digitChar
  := by
  fun_induction decimalDigits n with
  | case1 n h =>
      refine ⟨[n], ⟨?_, ofDigits_singleton n, n, [], rfl, fun _ => rfl⟩, rfl⟩
      intro d hd
      rw [List.mem_singleton.mp hd]
      exact h
  | case2 n h ih =>
      obtain ⟨ds, ⟨hsmall, hvalue, d, es, rfl, hlead⟩, hds⟩ := ih
      have hlast : n % 10 < 10 := Nat.mod_lt n (by decide)
      refine ⟨d :: es ++ [n % 10], ⟨?_, ?_, d, es ++ [n % 10], rfl, fun hd => ?_⟩, ?_⟩
      · intro e he
        obtain he | he := List.mem_append.mp he
        · exact hsmall e he
        · rw [List.mem_singleton.mp he]
          exact hlast
      · rw [ofDigits_append, hvalue, ofDigits_singleton, List.length_singleton, pow_one]
        omega
      · -- A number in front of the last digit is not zero.
        rw [hlead hd, ofDigits_singleton] at hvalue
        omega
      · rw [hds, List.map_append]
        rfl

/-- The digits of a number other than zero begin with another one. -/
theorem IsDecimal.lead_ne_zero {ds : List Nat} {n : Nat} (h : IsDecimal ds n) (hn : n ≠ 0) :
  ∃ d es, ds = d :: es ∧ d ≠ 0
  := by
  obtain ⟨d, es, rfl, hlead⟩ := h.lead
  refine ⟨d, es, rfl, fun hd => hn ?_⟩
  rw [← h.value, hlead hd, ofDigits_singleton, hd]

/-- Zero has a single digit. -/
theorem IsDecimal.eq_singleton {ds : List Nat} (h : IsDecimal ds 0) :
  ds = [0]
  := by
  obtain ⟨d, es, rfl, hlead⟩ := h.lead
  have hvalue := h.value
  rw [← List.singleton_append, ofDigits_append, ofDigits_singleton] at hvalue
  have hpos : 0 < 10 ^ es.length := Nat.pow_pos (by decide)
  have hd : d = 0 := by
    by_contra hd
    have := Nat.mul_pos (Nat.pos_of_ne_zero hd) hpos
    omega
  rw [hlead hd, hd]

/-- A number has no more digits than a power of ten counts when it is below the power. -/
theorem length_decimalDigits_le_iff {n k : Nat} (hk : 0 < k) :
  (decimalDigits n).length ≤ k ↔ n < 10 ^ k
  := by
  refine ⟨fun h => ?_, length_decimalDigits_le hk⟩
  obtain ⟨ds, hds, hdigits⟩ := exists_isDecimal n
  rw [hdigits, List.length_map] at h
  rw [← hds.value]
  exact Nat.lt_of_lt_of_le (ofDigits_lt hds.small) (Nat.pow_le_pow_right (by decide) h)

end BranchingStory
