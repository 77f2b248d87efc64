import BranchingStory.Number.Shortest
import BranchingStory.Proofs.Number.Rounding

/-!
# Decimals that read back

A decimal reads as a number of the binary64 format: `Binary64.isProper_ofDecimal`.  Zeros behind its
digits do not change that number, and a decimal that equals a number of the format reads as that
number.  So the digits that are written for a number read back: `Shortest.ofDecimal_digits`.
-/

namespace BranchingStory

namespace Binary64

variable {d : Nat} {p : Int} {negative : Bool}

/-! ### Zeros behind the digits -/

/-- A zero at the end is dropped for one more power of ten. -/
theorem dropZeros_mul_ten (hd : d ≠ 0) (p : Int) :
  dropZeros (d * 10) p = dropZeros d (p + 1)
  := by
  rw [dropZeros, if_pos ⟨by omega, by omega⟩, Nat.mul_div_cancel _ (by decide)]

/-- No digits make a zero. -/
theorem ofDecimal_zero (negative : Bool) (p : Int) :
  ofDecimal negative 0 p = zero negative
  := by
  have hdrop : dropZeros 0 p = (0, p) := by
    rw [dropZeros, if_neg (by simp)]
  rw [ofDecimal, hdrop]
  exact if_pos (Or.inl rfl)

/-- Zeros behind the digits of a decimal count for powers of ten. -/
theorem ofDecimal_mul_pow (negative : Bool) (d k : Nat) (p : Int) :
  ofDecimal negative (d * 10 ^ k) p = ofDecimal negative d (p + k)
  := by
  by_cases hd : d = 0
  · rw [hd, Nat.zero_mul, ofDecimal_zero, ofDecimal_zero]
  · induction k generalizing p with
    | zero => rw [Nat.pow_zero, Nat.mul_one, Nat.cast_zero, add_zero]
    | succ k ih =>
        have hpow : d * 10 ^ k ≠ 0 := Nat.mul_ne_zero hd (by positivity)
        have hcast : p + ((k + 1 : Nat) : Int) = p + 1 + k := by
          push_cast
          ring
        rw [Nat.pow_succ, ← Nat.mul_assoc, ofDecimal, dropZeros_mul_ten hpow, ← ofDecimal, ih,
          hcast]

/-- A decimal and the one without zeros at its end are the same number, and nothing is left of its
digits only where there were none. -/
theorem dropZeros_eq (d : Nat) (p : Int) :
  ∃ k : Nat, d = (dropZeros d p).1 * 10 ^ k ∧ (dropZeros d p).2 = p + k
  := by
  fun_induction dropZeros d p with
  | case1 d p h ih =>
      obtain ⟨k, hd, hp⟩ := ih
      refine ⟨k + 1, ?_, ?_⟩
      · rw [Nat.pow_succ, ← Nat.mul_assoc, ← hd]
        omega
      · rw [hp]
        push_cast
        ring
  | case2 d p h => exact ⟨0, by simp, by simp⟩

/-- Without the zeros at its end a decimal reads as the same number. -/
theorem ofDecimal_dropZeros (negative : Bool) (d : Nat) (p : Int) :
  ofDecimal negative (dropZeros d p).1 (dropZeros d p).2 = ofDecimal negative d p
  := by
  obtain ⟨k, hd, hp⟩ := dropZeros_eq d p
  rw [hp, ← ofDecimal_mul_pow, ← hd]

/-! ### Exact decimals -/

/-- A number is below the power of ten with one more digit. -/
theorem lt_pow_digitCount (n : Nat) :
  n < 10 ^ digitCount n
  := by
  fun_induction digitCount n with
  | case1 => decide
  | case2 n h ih =>
      rw [Nat.pow_succ]
      omega

/-- A number is not below the power of ten with as many digits. -/
theorem pow_digitCount_le {n : Nat} (h : n ≠ 0) :
  10 ^ digitCount n ≤ 10 * n
  := by
  fun_induction digitCount n with
  | case1 => exact absurd rfl h
  | case2 n _ ih =>
      rw [Nat.pow_succ]
      by_cases hn : n / 10 = 0
      · rw [hn, digitCount, if_pos rfl]
        omega
      · have := ih hn
        omega

variable {m : Nat} {e : Int}

/-- The numbers of the format have from minus 330 to 310 digits in front of the point. -/
theorem IsCanonical.point_bounds (h : IsCanonical m e) (hm : m ≠ 0) (hd : d ≠ 0)
    (hq : (d * 10 ^ p : ℚ) = m * 2 ^ e) :
  -330 ≤ (digitCount d : Int) + p ∧ (digitCount d : Int) + p ≤ 310
  := by
  have hm' : (1 : ℚ) ≤ m := by exact_mod_cast Nat.one_le_iff_ne_zero.mpr hm
  have hupper : (d * 10 ^ p : ℚ) < 10 ^ ((digitCount d : Int) + p) := by
    have hlt : (d : ℚ) < 10 ^ digitCount d := by exact_mod_cast lt_pow_digitCount d
    rw [zpow_add₀ (by norm_num), zpow_natCast]
    gcongr
  have hlower : (10 : ℚ) ^ ((digitCount d : Int) + p) ≤ 10 * (d * 10 ^ p) := by
    have hle : (10 : ℚ) ^ digitCount d ≤ 10 * d := by exact_mod_cast pow_digitCount_le hd
    rw [zpow_add₀ (by norm_num), zpow_natCast, ← mul_assoc]
    gcongr
  rw [hq] at hupper hlower
  constructor
  · by_contra hlt
    have hsmall : (10 : ℚ) ^ ((digitCount d : Int) + p) ≤ 10 ^ (-331 : Int) :=
      zpow_le_zpow_right₀ (by norm_num) (by omega)
    have hgreat : (2 : ℚ) ^ (-1074 : Int) ≤ m * 2 ^ e := by
      calc (2 : ℚ) ^ (-1074 : Int) ≤ 2 ^ e := zpow_le_zpow_right₀ (by norm_num) h.least
        _ ≤ m * 2 ^ e := le_mul_of_one_le_left (by positivity) hm'
    have hpowers : (10 : ℚ) ^ (-331 : Int) < 2 ^ (-1074 : Int) := by
      have hnat : 2 ^ 1074 < 10 ^ 331 := by decide +kernel
      rw [zpow_neg, zpow_neg]
      exact inv_strictAnti₀ (by positivity) (by exact_mod_cast hnat)
    exact absurd (hpowers.trans_le (hgreat.trans hupper.le)) (not_lt.mpr hsmall)
  · by_contra hlt
    have hgreat : (10 : ℚ) ^ (311 : Int) ≤ 10 ^ ((digitCount d : Int) + p) :=
      zpow_le_zpow_right₀ (by norm_num) (by omega)
    have hsmall : (m * 2 ^ e : ℚ) < 2 ^ (1024 : Int) := by
      have hbits : m < 2 ^ 53 := lt_of_lt_of_eq h.small (by rw [leastSignificand_eq]; norm_num)
      have hexponent : e + 53 ≤ 1024 := by
        have := h.greatest
        rw [greatestExponent] at this
        omega
      exact (mul_zpow_lt hbits e).trans_le (zpow_le_zpow_right₀ (by norm_num) hexponent)
    have hpowers : (10 : ℚ) * 2 ^ (1024 : Int) < 10 ^ (311 : Int) := by
      have hnat : 10 * 2 ^ 1024 < 10 ^ 311 := by decide +kernel
      exact_mod_cast hnat
    have hten : 10 * (m * 2 ^ e : ℚ) < 10 * 2 ^ (1024 : Int) := by gcongr
    exact absurd (hlower.trans_lt (hten.trans hpowers)) (not_lt.mpr hgreat)

/-- Scaling up multiplies with a power of ten. -/
theorem scaleUp_natCast (n k : Nat) :
  scaleUp n k = n * 10 ^ k
  := rfl

/-- A decimal that equals a number of the format reads as that number. -/
theorem IsCanonical.ofDecimal_eq (h : IsCanonical m e) (hm : m ≠ 0)
    (hq : (d * 10 ^ p : ℚ) = m * 2 ^ e) (negative : Bool) :
  ofDecimal negative d p = finite negative m e
  := by
  obtain ⟨k, hk, hp⟩ := dropZeros_eq d p
  obtain ⟨c, hc⟩ : ∃ c, c = (dropZeros d p).1 := ⟨_, rfl⟩
  have hq' : (c * 10 ^ (p + k) : ℚ) = m * 2 ^ e := by
    rw [← hq, hk, ← hc, zpow_add₀ (by norm_num), zpow_natCast]
    push_cast
    ring
  have hc₀ : c ≠ 0 := by
    rintro rfl
    have hm' : (m : ℚ) ≠ 0 := by exact_mod_cast hm
    have hpos : (m * 2 ^ e : ℚ) ≠ 0 := by positivity
    rw [← hq'] at hpos
    simp at hpos
  obtain ⟨hleast, hmost⟩ := h.point_bounds hm hc₀ hq'
  have hdrop : dropZeros d p = (c, p + k) := Prod.ext hc.symm hp
  rw [ofDecimal, hdrop]
  dsimp only
  rw [if_neg (by omega), if_neg (by omega)]
  split_ifs with hsign
  · obtain ⟨n, hn⟩ := Int.eq_ofNat_of_zero_le hsign
    rw [hn] at hq' ⊢
    rw [scaleUp_natCast]
    apply h.ofRatio_eq (Nat.mul_ne_zero hc₀ (by positivity)) Nat.one_pos
    rw [← hq', zpow_natCast]
    push_cast
    ring
  · obtain ⟨n, hn⟩ : ∃ n : Nat, p + k = -n := ⟨(-(p + k)).toNat, by omega⟩
    rw [hn] at hq' ⊢
    rw [neg_neg, scaleUp_natCast, Nat.one_mul]
    apply h.ofRatio_eq hc₀ (by positivity)
    rw [← hq', zpow_neg, zpow_natCast, div_eq_mul_inv]
    push_cast
    ring

/-- A decimal reads as a number of the format. -/
theorem isProper_ofDecimal (negative : Bool) (d : Nat) (p : Int) :
  (ofDecimal negative d p).IsProper
  := by
  rw [ofDecimal]
  dsimp only
  split_ifs
  · exact isProper_zero negative
  · trivial
  · exact isProper_ofRatio negative _ Nat.one_pos
  · exact isProper_ofRatio negative _ (Nat.mul_pos Nat.one_pos (Nat.pow_pos (by decide)))

/-! ### Signs -/

/-- A number with the sign of another place. -/
def withSign (negative : Bool) : Binary64 → Binary64
  | nan => nan
  | infinite _ => infinite negative
  | finite _ m e => finite negative m e

/-- The sign of a ratio is put in front of what is rounded. -/
theorem ofRatio_withSign (negative : Bool) (num den : Nat) :
  ofRatio negative num den = (ofRatio false num den).withSign negative
  := by
  simp only [ofRatio, zero]
  split_ifs <;> rfl

/-- The sign of a decimal does not matter to what it reads as otherwise. -/
theorem ofDecimal_withSign (negative : Bool) (d : Nat) (p : Int) :
  ofDecimal negative d p = (ofDecimal false d p).withSign negative
  := by
  simp only [ofDecimal, zero]
  split_ifs
  · rfl
  · rfl
  · apply ofRatio_withSign
  · apply ofRatio_withSign

end Binary64

namespace Shortest

open Binary64

variable {m : Nat} {e : Int}

/-! ### The fewest digits -/

/-- Digits that were tried and found are read back. -/
theorem onGrid_readsBack {p : Int} {d : Nat} (h : onGrid m e p = some d) :
  ofDecimal false d p = .finite false m e
  := by
  have hread {d : Nat} (hd : readsBack m e d p = true) :
      ofDecimal false d p = .finite false m e := beq_iff_eq.mp hd
  unfold onGrid at h
  dsimp only at h
  split at h
  · next hlower hupper =>
    obtain rfl := Option.some.inj h
    split_ifs
    · exact hread hupper
    · exact hread hlower
  · next hlower _ =>
    obtain rfl := Option.some.inj h
    exact hread hlower
  · next _ hupper =>
    obtain rfl := Option.some.inj h
    exact hread hupper
  · cases h

/-- All digits of a number read back. -/
theorem ofDecimal_exact (h : IsCanonical m e) (hm : m ≠ 0) :
  ofDecimal false (exact m e).1 (exact m e).2 = .finite false m e
  := by
  apply h.ofDecimal_eq hm
  rw [exact]
  split_ifs with he
  · obtain ⟨n, rfl⟩ := Int.eq_ofNat_of_zero_le he
    dsimp only
    rw [shiftUp_natCast, zpow_natCast, zpow_zero, mul_one]
    push_cast
    rfl
  · obtain ⟨n, rfl⟩ : ∃ n : Nat, e = -n := ⟨(-e).toNat, by omega⟩
    have hfive : ((m * Nat.pow 5 (- -(n : Int)).toNat : Nat) : ℚ) = m * 5 ^ n := by
      rw [neg_neg, Int.toNat_natCast, Nat.pow_eq]
      push_cast
      rfl
    have hten : (10 : ℚ) ^ n = 2 ^ n * 5 ^ n := by
      rw [← mul_pow]
      norm_num
    rw [hfive, zpow_neg, zpow_neg, zpow_natCast, zpow_natCast, hten]
    field_simp

theorem ofDecimal_search (h : IsCanonical m e) (hm : m ≠ 0) (fuel : Nat) (p : Int) :
  ofDecimal false (search m e fuel p).1 (search m e fuel p).2 = .finite false m e
  := by
  fun_induction search m e fuel p with
  | case1 => exact ofDecimal_exact h hm
  | case2 fuel p d hd => exact onGrid_readsBack hd
  | case3 fuel p hd ih => exact ih

/-- The digits that are written for a number read back as that number. -/
theorem ofDecimal_digits (h : IsCanonical m e) (negative : Bool) :
  ofDecimal negative (digits m e).1 (digits m e).2 = .finite negative m e
  := by
  rw [digits]
  split_ifs with hm
  · have hle : ¬ leastSignificand ≤ m := by
      rw [hm, leastSignificand]
      decide
    rw [ofDecimal_zero, zero, hm, h.lead.resolve_left hle, leastExponent]
  · rw [ofDecimal_withSign]
    dsimp only
    rw [ofDecimal_dropZeros, ofDecimal_search h hm]
    rfl

end Shortest

end BranchingStory
