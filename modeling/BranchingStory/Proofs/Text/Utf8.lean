import BranchingStory.Text.Utf8
import Mathlib.Tactic.SplitIfs

/-!
# UTF-8 read back

The bytes of a text are well formed, and decode to the text.
-/

namespace BranchingStory

namespace Utf8

/-- Bytes are decoded one part after another. -/
theorem run_append (s : State) (as bs : Bytes) :
  run s (as ++ bs) = ((run s as).1 ++ (run (run s as).2 bs).1, (run (run s as).2 bs).2)
  := by
  induction as generalizing s with
  | nil => rfl
  | cons a as ih => simp only [List.cons_append, run, ih, List.append_assoc]

/-- A byte inside the range goes on with a character. -/
theorem step_inside {owed low high value b : Nat} (hl : low ≤ b) (hh : b ≤ high) :
  step (.inside owed low high value) b
    = (match owed with
      | 0 => ([some (Char.ofNat (value * 64 + (b - 0x80)))], .start)
      | owed + 1 => ([], .inside owed 0x80 0xBF (value * 64 + (b - 0x80))))
  := if_pos ⟨hl, hh⟩

/-- The code of a character is no surrogate and not too great. -/
theorem toNat_valid (c : Char) :
  c.toNat < 0xD800 ∨ 0xDFFF < c.toNat ∧ c.toNat < 0x110000
  := c.valid

theorem run_cons (s : State) (b : UInt8) (bs : Bytes) :
  run s (b :: bs) = ((step s b.toNat).1 ++ (run (step s b.toNat).2 bs).1,
    (run (step s b.toNat).2 bs).2)
  := rfl

/-- A byte that begins two. -/
theorem first_two {b : Nat} (hl : 0xC2 ≤ b) (hh : b ≤ 0xDF) :
  first b = ([], .inside 0 0x80 0xBF (b - 0xC0))
  := by
  unfold first
  rw [if_neg (by omega), if_pos ⟨hl, hh⟩]

/-- A byte that begins three goes on with another one, which neither writes a character
longer than it is nor a surrogate. -/
theorem first_three {b d : Nat} (hb : 0xE0 ≤ b ∧ b ≤ 0xEF) (hd : 0x80 ≤ d ∧ d ≤ 0xBF)
    (hlong : b = 0xE0 → 0xA0 ≤ d) (hsurrogate : b = 0xED → d ≤ 0x9F) :
  ∃ low high, first b = ([], .inside 1 low high (b - 0xE0)) ∧ low ≤ d ∧ d ≤ high
  := by
  unfold first
  rw [if_neg (by omega), if_neg (by omega)]
  split_ifs with h₁ h₂ h₃
  · subst h₁
    exact ⟨_, _, rfl, hlong rfl, hd.2⟩
  · subst h₂
    exact ⟨_, _, rfl, hd.1, hsurrogate rfl⟩
  · exact ⟨_, _, rfl, hd⟩
  all_goals omega

/-- A byte that begins four goes on with another one, which neither writes a character longer
than it is nor one that is too great. -/
theorem first_four {b d : Nat} (hb : 0xF0 ≤ b ∧ b ≤ 0xF4) (hd : 0x80 ≤ d ∧ d ≤ 0xBF)
    (hlong : b = 0xF0 → 0x90 ≤ d) (hgreat : b = 0xF4 → d ≤ 0x8F) :
  ∃ low high, first b = ([], .inside 2 low high (b - 0xF0)) ∧ low ≤ d ∧ d ≤ high
  := by
  unfold first
  rw [if_neg (by omega), if_neg (by omega), if_neg (by omega), if_neg (by omega),
    if_neg (by omega)]
  split_ifs with h₁ h₂ h₃
  · subst h₁
    exact ⟨_, _, rfl, hlong rfl, hd.2⟩
  · exact ⟨_, _, rfl, hd⟩
  · subst h₃
    exact ⟨_, _, rfl, hd.1, hgreat rfl⟩
  · omega

/-- A byte keeps a code that is small enough. -/
theorem toNat_byte {n : Nat} (h : n < 256) :
  (UInt8.ofNat n).toNat = n
  := UInt8.toNat_ofNat_of_lt' h

/-- The bytes of a character decode to it. -/
theorem run_encodeChar (c : Char) :
  run .start (encodeChar c) = ([some c], .start)
  := by
  have hv := toNat_valid c
  have hc : Char.ofNat c.toNat = c := Char.ofNat_toNat c
  unfold encodeChar
  generalize c.toNat = n at hv hc
  subst hc
  dsimp only
  split_ifs with h₁ h₂ h₃
  · rw [run_cons, toNat_byte (by omega), step, first, if_pos h₁]
    rfl
  · have hvalue : (0xC0 + n / 64 - 0xC0) * 64 + (0x80 + n / 1 % 64 - 0x80) = n := by omega
    rw [run_cons, toNat_byte (by omega), step, first_two (by omega) (by omega), run_cons,
      toNat_byte (by omega), step_inside (by omega) (by omega), hvalue]
    rfl
  · obtain ⟨low, high, hfirst, hl, hh⟩ := first_three (b := 0xE0 + n / 4096)
      (d := 0x80 + n / 64 % 64) (by omega) (by omega) (by omega) (by omega)
    have hvalue : ((0xE0 + n / 4096 - 0xE0) * 64 + (0x80 + n / 64 % 64 - 0x80)) * 64
        + (0x80 + n / 1 % 64 - 0x80) = n := by omega
    rw [run_cons, toNat_byte (by omega), step, hfirst, run_cons, toNat_byte (by omega),
      step_inside hl hh, run_cons, toNat_byte (by omega), step_inside (by omega) (by omega),
      hvalue]
    rfl
  · obtain ⟨low, high, hfirst, hl, hh⟩ := first_four (b := 0xF0 + n / 262144)
      (d := 0x80 + n / 4096 % 64) (by omega) (by omega) (by omega) (by omega)
    have hvalue : (((0xF0 + n / 262144 - 0xF0) * 64 + (0x80 + n / 4096 % 64 - 0x80)) * 64
        + (0x80 + n / 64 % 64 - 0x80)) * 64 + (0x80 + n / 1 % 64 - 0x80) = n := by omega
    rw [run_cons, toNat_byte (by omega), step, hfirst, run_cons, toNat_byte (by omega),
      step_inside hl hh, run_cons, toNat_byte (by omega), step_inside (by omega) (by omega),
      run_cons, toNat_byte (by omega), step_inside (by omega) (by omega), hvalue]
    rfl

/-- The bytes of a text decode to its characters. -/
theorem run_encode (t : Text) :
  run .start (encode t) = (t.map some, .start)
  := by
  induction t with
  | nil => rfl
  | cons c t ih =>
      have hcons : encode (c :: t) = encodeChar c ++ encode t := List.flatMap_cons
      rw [hcons, run_append, run_encodeChar, ih]
      rfl

/-- The bytes of a text are well formed, and decode to the text. -/
theorem decode?_encode (t : Text) :
  decode? (encode t) = some t
  := by
  rw [decode?, run_encode]
  simp only [finish, List.append_nil, List.mapM_map]
  apply List.mapM_pure.trans
  simp

end Utf8

end BranchingStory
