import BranchingStory.Number.Binary64
import Mathlib.Algebra.Order.Field.Power
import Mathlib.Data.Nat.Log
import Mathlib.Data.Rat.Cast.Order
import Mathlib.Tactic.FieldSimp
import Mathlib.Tactic.Linarith
import Mathlib.Tactic.Positivity
import Mathlib.Tactic.Ring

/-!
# Rounding quotients

A quotient is rounded to a number of the binary64 format: `Binary64.isProper_ofRatio`.  One that is
such a number is rounded to itself: `Binary64.IsCanonical.ofRatio_eq`.  The lengths of the numerator
and the denominator tell the exponent up to one, and the first guess is too great by one or right.
-/

namespace BranchingStory

/-! ### Quotients and powers of two -/

/-- Shifting up multiplies with a power of two. -/
theorem shiftUp_natCast (n k : Nat) :
  shiftUp n k = n * 2 ^ k
  := rfl

/-- Nothing is shifted up by a negative number. -/
theorem shiftUp_neg_natCast (n k : Nat) :
  shiftUp n (-k) = n
  := by
  have hk : (-(k : Int)).toNat = 0 := by omega
  rw [shiftUp, hk]
  exact Nat.mul_one n

/-- What is positive stays so when it is shifted up. -/
theorem shiftUp_pos {n : Nat} (h : 0 < n) (k : Int) :
  0 < shiftUp n k
  := Nat.mul_pos h (Nat.pow_pos (by decide))

/-- A quotient compared with a multiple of a power of two, without fractions. -/
theorem shiftUp_lt_iff {num den c : Nat} (hden : 0 < den) (k : Int) :
  shiftUp num (-k) < c * shiftUp den k ↔ (num / den : ℚ) < c * 2 ^ k
  := by
  have hden' : (0 : ℚ) < den := by exact_mod_cast hden
  rw [div_lt_iff₀ hden']
  obtain ⟨n, rfl | rfl⟩ := k.eq_nat_or_neg
  · rw [shiftUp_neg_natCast, shiftUp_natCast, zpow_natCast, mul_assoc, mul_comm (2 ^ n : ℚ)]
    exact_mod_cast Iff.rfl
  · rw [neg_neg, shiftUp_neg_natCast, shiftUp_natCast, zpow_neg, zpow_natCast, mul_right_comm,
      ← div_eq_mul_inv, lt_div_iff₀ (by positivity)]
    exact_mod_cast Iff.rfl

theorem shiftUp_eq_iff {num den c : Nat} (hden : 0 < den) (k : Int) :
  shiftUp num (-k) = c * shiftUp den k ↔ (num / den : ℚ) = c * 2 ^ k
  := by
  have hden' : (den : ℚ) ≠ 0 := by exact_mod_cast hden.ne'
  rw [div_eq_iff hden']
  obtain ⟨n, rfl | rfl⟩ := k.eq_nat_or_neg
  · rw [shiftUp_neg_natCast, shiftUp_natCast, zpow_natCast, mul_assoc, mul_comm (2 ^ n : ℚ)]
    exact_mod_cast Iff.rfl
  · rw [neg_neg, shiftUp_neg_natCast, shiftUp_natCast, zpow_neg, zpow_natCast, mul_right_comm,
      ← div_eq_mul_inv, eq_div_iff (by positivity)]
    exact_mod_cast Iff.rfl

/-- Rounding goes up by one at most, and never down. -/
theorem divNearest_cases (a b : Nat) :
  divNearest a b = a / b ∨ divNearest a b = a / b + 1
  := by
  rw [divNearest]
  split_ifs
  · right
    rfl
  · left
    rfl

/-- A quotient without a remainder is not rounded. -/
theorem divNearest_mul {b : Nat} (hb : 0 < b) (a : Nat) :
  divNearest (a * b) b = a
  := by
  simp only [divNearest, Nat.mul_div_cancel _ hb, Nat.mul_mod_left]
  rw [if_neg (by omega)]

/-- A quotient lies within a factor of two of the power that the lengths of its parts tell. -/
theorem log2_bounds {num den : Nat} (hnum : num ≠ 0) (hden : den ≠ 0) :
  (2 : ℚ) ^ ((num.log2 : Int) - den.log2 - 1) < num / den
    ∧ (num / den : ℚ) < 2 ^ ((num.log2 : Int) - den.log2 + 1)
  := by
  have hn₁ : (2 : ℚ) ^ num.log2 ≤ num := by exact_mod_cast Nat.log2_self_le hnum
  have hn₂ : (num : ℚ) < 2 ^ (num.log2 + 1) := by exact_mod_cast Nat.lt_log2_self
  have hd₁ : (2 : ℚ) ^ den.log2 ≤ den := by exact_mod_cast Nat.log2_self_le hden
  have hd₂ : (den : ℚ) < 2 ^ (den.log2 + 1) := by exact_mod_cast Nat.lt_log2_self
  have hpos : (0 : ℚ) < den := by exact_mod_cast Nat.pos_of_ne_zero hden
  constructor
  · rw [lt_div_iff₀ hpos]
    calc (2 : ℚ) ^ ((num.log2 : Int) - den.log2 - 1) * den
        < 2 ^ ((num.log2 : Int) - den.log2 - 1) * 2 ^ (den.log2 + 1) := by gcongr
      _ = 2 ^ num.log2 := by
        rw [← zpow_natCast, ← zpow_natCast, ← zpow_add₀ two_ne_zero]
        congr 1
        push_cast
        ring
      _ ≤ num := hn₁
  · rw [div_lt_iff₀ hpos]
    calc (num : ℚ) < 2 ^ (num.log2 + 1) := hn₂
      _ = 2 ^ ((num.log2 : Int) - den.log2 + 1) * 2 ^ den.log2 := by
        rw [← zpow_natCast, ← zpow_natCast, ← zpow_add₀ two_ne_zero]
        congr 1
        push_cast
        ring
      _ ≤ 2 ^ ((num.log2 : Int) - den.log2 + 1) * den := by gcongr

namespace Binary64

/-! ### Numbers of the format -/

/-- The significands and exponents of the format: the significand is as great as it can be, unless
the exponent is the least one. -/
structure IsCanonical (m : Nat) (e : Int) : Prop where
  small : m < 2 * leastSignificand
  least : leastExponent ≤ e
  greatest : e ≤ greatestExponent
  lead : leastSignificand ≤ m ∨ e = leastExponent

instance (m : Nat) (e : Int) : Decidable (IsCanonical m e) :=
  decidable_of_iff (m < 2 * leastSignificand ∧ leastExponent ≤ e ∧ e ≤ greatestExponent
      ∧ (leastSignificand ≤ m ∨ e = leastExponent))
    ⟨fun ⟨h₁, h₂, h₃, h₄⟩ => ⟨h₁, h₂, h₃, h₄⟩, fun ⟨h₁, h₂, h₃, h₄⟩ => ⟨h₁, h₂, h₃, h₄⟩⟩

/-- A number whose significand and exponent are those of the format. -/
def IsProper : Binary64 → Prop
  | finite _ m e => IsCanonical m e
  | _ => True

instance (x : Binary64) : Decidable x.IsProper :=
  match x with
  | finite _ m e => inferInstanceAs (Decidable (IsCanonical m e))
  | nan => isTrue trivial
  | infinite _ => isTrue trivial

/-- Zeros are numbers of the format. -/
theorem isProper_zero (negative : Bool) :
  (zero negative).IsProper
  := by
  cases negative with
  | false => decide
  | true => decide

variable {m num den : Nat} {e : Int}

theorem leastSignificand_eq :
  leastSignificand = 2 ^ 52
  := by norm_num [leastSignificand]

/-- A multiple of a power of two lies below the power that the bits of its factor tell. -/
theorem mul_zpow_lt {k : Nat} (h : m < 2 ^ k) (e : Int) :
  (m * 2 ^ e : ℚ) < 2 ^ (e + k)
  := by
  have hm : (m : ℚ) < 2 ^ k := by exact_mod_cast h
  calc (m * 2 ^ e : ℚ) < 2 ^ k * 2 ^ e := by gcongr
    _ = 2 ^ (e + k) := by rw [← zpow_natCast, ← zpow_add₀ two_ne_zero, add_comm]

/-- A significand with a leading bit is at least the power of two of this bit. -/
theorem zpow_le_mul {k : Nat} (h : 2 ^ k ≤ m) (e : Int) :
  (2 : ℚ) ^ (e + k) ≤ m * 2 ^ e
  := by
  have hm : (2 : ℚ) ^ k ≤ m := by exact_mod_cast h
  calc (2 : ℚ) ^ (e + k) = 2 ^ k * 2 ^ e := by
        rw [← zpow_natCast, ← zpow_add₀ two_ne_zero, add_comm]
    _ ≤ m * 2 ^ e := by gcongr

/-- The exponent that the lengths of the parts of a quotient tell, if it is not too small. -/
def guess (num den : Nat) : Int :=
  max leastExponent ((num.log2 : Int) - den.log2 - 52)

/-- The guess is right or too great by one. -/
theorem IsCanonical.guess_eq (h : IsCanonical m e) (hnum : num ≠ 0) (hden : den ≠ 0)
    (hq : (num / den : ℚ) = m * 2 ^ e) :
  guess num den = e ∨ guess num den = e + 1 ∧ leastSignificand ≤ m
  := by
  obtain ⟨hlow, hhigh⟩ := log2_bounds hnum hden
  rw [hq] at hlow hhigh
  have hleast := h.least
  rw [guess]
  by_cases hm : leastSignificand ≤ m
  · have hsmall : m < 2 ^ 53 := lt_of_lt_of_eq h.small (by rw [leastSignificand_eq]; norm_num)
    have hupper : (num.log2 : Int) - den.log2 - 1 < e + 53 :=
      (zpow_lt_zpow_iff_right₀ one_lt_two).mp (hlow.trans (mul_zpow_lt hsmall e))
    have hlower : e + 52 < (num.log2 : Int) - den.log2 + 1 :=
      (zpow_lt_zpow_iff_right₀ one_lt_two).mp
        (lt_of_le_of_lt (zpow_le_mul (leastSignificand_eq ▸ hm) e) hhigh)
    omega
  · obtain rfl : e = leastExponent := h.lead.resolve_left hm
    have hsmall : m < 2 ^ 52 := leastSignificand_eq ▸ Nat.lt_of_not_le hm
    have hupper : (num.log2 : Int) - den.log2 - 1 < leastExponent + 52 :=
      (zpow_lt_zpow_iff_right₀ one_lt_two).mp (hlow.trans (mul_zpow_lt hsmall _))
    omega

/-- The exponent of a quotient: the guess, or one less where the quotient is too small for it. -/
def exponent (num den : Nat) : Int :=
  if shiftUp num (-guess num den) / shiftUp den (guess num den) < leastSignificand
    ∧ leastExponent < guess num den then guess num den - 1 else guess num den

/-- The exponent of a canonical number is found again. -/
theorem IsCanonical.exponent_eq (h : IsCanonical m e) (hnum : num ≠ 0) (hden : 0 < den)
    (hq : (num / den : ℚ) = m * 2 ^ e) :
  exponent num den = e
  := by
  have hlow : shiftUp num (-guess num den) / shiftUp den (guess num den) < leastSignificand
      ↔ (m * 2 ^ e : ℚ) < leastSignificand * 2 ^ guess num den := by
    rw [Nat.div_lt_iff_lt_mul (shiftUp_pos hden _), shiftUp_lt_iff hden, hq]
  have hleast := h.least
  obtain hguess | ⟨hguess, hlead⟩ := h.guess_eq hnum hden.ne' hq
  · rw [exponent, if_neg, hguess]
    rw [hlow, hguess]
    rintro ⟨hlt, he⟩
    obtain hlead | hlead := h.lead
    · have hlead' : (leastSignificand : ℚ) ≤ m := by exact_mod_cast hlead
      have hge : (leastSignificand * 2 ^ e : ℚ) ≤ m * 2 ^ e := by gcongr
      exact absurd hlt (not_lt.mpr hge)
    · omega
  · rw [exponent, if_pos, hguess]
    · omega
    · rw [hlow, hguess]
      refine ⟨?_, by omega⟩
      have hsmall : (m : ℚ) < 2 * leastSignificand := by exact_mod_cast h.small
      calc (m * 2 ^ e : ℚ) < 2 * leastSignificand * 2 ^ e := by gcongr
        _ = leastSignificand * 2 ^ (e + 1) := by
          rw [zpow_add_one₀ two_ne_zero]
          ring

/-- The number of a significand and an exponent: a significand that is too great by one is the least
one of the next exponent, and beyond the greatest exponent the number is infinite. -/
def pack (negative : Bool) (m : Nat) (e : Int) : Binary64 :=
  let (m, e) := if m = 2 * leastSignificand then (leastSignificand, e + 1) else (m, e)
  if greatestExponent < e then infinite negative else finite negative m e

/-- A canonical number is packed as it is. -/
theorem IsCanonical.pack_eq (h : IsCanonical m e) (negative : Bool) :
  pack negative m e = finite negative m e
  := by
  rw [pack, if_neg h.small.ne]
  exact if_neg (not_lt.mpr h.greatest)

/-- What is packed is a number of the format. -/
theorem isProper_pack (negative : Bool) (hm : m ≤ 2 * leastSignificand) (he : leastExponent ≤ e)
    (hlead : leastSignificand ≤ m ∨ e = leastExponent) :
  (pack negative m e).IsProper
  := by
  have hpos : 0 < leastSignificand := by decide
  rw [pack]
  split_ifs with hcarry
  · dsimp only
    split_ifs with hgreatest
    · trivial
    · exact ⟨by omega, by omega, by omega, Or.inl le_rfl⟩
  · dsimp only
    split_ifs with hgreatest
    · trivial
    · exact ⟨by omega, he, by omega, hlead⟩

/-- A ratio is rounded to a multiple of the power of its exponent and packed. -/
theorem ofRatio_eq_pack (hnum : num ≠ 0) (negative : Bool) :
  ofRatio negative num den
    = pack negative
      (divNearest (shiftUp num (-exponent num den)) (shiftUp den (exponent num den)))
      (exponent num den)
  := by
  rw [ofRatio, if_neg hnum]
  rfl

/-- A quotient that is a number of the format is rounded to that number. -/
theorem IsCanonical.ofRatio_eq (h : IsCanonical m e) (hnum : num ≠ 0) (hden : 0 < den)
    (hq : (num / den : ℚ) = m * 2 ^ e) (negative : Bool) :
  ofRatio negative num den = finite negative m e
  := by
  have hround : divNearest (shiftUp num (-e)) (shiftUp den e) = m := by
    rw [(shiftUp_eq_iff hden e).mpr hq]
    exact divNearest_mul (shiftUp_pos hden e) m
  rw [ofRatio_eq_pack hnum, h.exponent_eq hnum hden hq, hround, h.pack_eq]

/-! ### What is rounded -/

/-- With the exponent of a quotient the bits in front of the point fit the format. -/
theorem floor_exponent_lt (hnum : num ≠ 0) (hden : 0 < den) :
  shiftUp num (-exponent num den) / shiftUp den (exponent num den) < 2 * leastSignificand
  := by
  rw [Nat.div_lt_iff_lt_mul (shiftUp_pos hden _), shiftUp_lt_iff hden, exponent]
  split_ifs with h
  · have hlow := h.1
    rw [Nat.div_lt_iff_lt_mul (shiftUp_pos hden _), shiftUp_lt_iff hden] at hlow
    calc (num / den : ℚ) < leastSignificand * 2 ^ guess num den := hlow
      _ = (2 * leastSignificand : Nat) * 2 ^ (guess num den - 1) := by
        rw [zpow_sub_one₀ two_ne_zero]
        push_cast
        ring
  · have hguess : (num.log2 : Int) - den.log2 - 52 ≤ guess num den := le_max_right _ _
    calc (num / den : ℚ) < 2 ^ ((num.log2 : Int) - den.log2 + 1) :=
          (log2_bounds hnum hden.ne').2
      _ ≤ 2 ^ (53 + guess num den) := zpow_le_zpow_right₀ one_le_two (by omega)
      _ = (2 * leastSignificand : Nat) * 2 ^ guess num den := by
        rw [zpow_add₀ two_ne_zero, leastSignificand_eq]
        norm_num

/-- The exponent of a quotient is as small as it can be. -/
theorem le_floor_exponent (hnum : num ≠ 0) (hden : 0 < den)
    (hleast : leastExponent < exponent num den) :
  leastSignificand ≤ shiftUp num (-exponent num den) / shiftUp den (exponent num den)
  := by
  rw [exponent] at hleast ⊢
  split_ifs at hleast ⊢ with h
  · have hguess : guess num den = (num.log2 : Int) - den.log2 - 52 := by
      rw [guess] at hleast ⊢
      omega
    rw [← Nat.not_lt, Nat.div_lt_iff_lt_mul (shiftUp_pos hden _), shiftUp_lt_iff hden, not_lt]
    calc (leastSignificand * 2 ^ (guess num den - 1) : ℚ)
        = 2 ^ ((num.log2 : Int) - den.log2 - 1) := by
          have hexponent : (num.log2 : Int) - den.log2 - 1 = 52 + (guess num den - 1) := by omega
          rw [hexponent, zpow_add₀ two_ne_zero, leastSignificand_eq]
          norm_num
      _ ≤ num / den := (log2_bounds hnum hden.ne').1.le
  · omega

/-- No exponent is below the least one. -/
theorem leastExponent_le_exponent (num den : Nat) :
  leastExponent ≤ exponent num den
  := by
  have hguess : leastExponent ≤ guess num den := le_max_left _ _
  rw [exponent]
  split_ifs with h
  · omega
  · exact hguess

/-- A quotient is rounded to a number of the format. -/
theorem isProper_ofRatio (negative : Bool) (num : Nat) (hden : 0 < den) :
  (ofRatio negative num den).IsProper
  := by
  by_cases hnum : num = 0
  · rw [ofRatio, if_pos hnum]
    exact isProper_zero negative
  · have hlt := floor_exponent_lt hnum hden
    have hle := le_floor_exponent hnum hden
    have hleast := leastExponent_le_exponent num den
    rw [ofRatio_eq_pack hnum]
    obtain h | h := divNearest_cases (shiftUp num (-exponent num den))
      (shiftUp den (exponent num den))
    · exact isProper_pack negative (by omega) hleast (by omega)
    · exact isProper_pack negative (by omega) hleast (by omega)

end Binary64

end BranchingStory
