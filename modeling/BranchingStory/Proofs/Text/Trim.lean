import BranchingStory.Text.Blank
import BranchingStory.Text.Case
import Mathlib.Data.List.DropRight

/-!
# Trimming and capitals

A trimmed text stays as it is when it is trimmed again, and a text is empty in capitals
only when it is empty.
-/

namespace BranchingStory

namespace Text

/-- Trimming the end drops blanks from behind. -/
theorem trimEnd_eq_rdropWhile (t : Text) :
  trimEnd t = t.rdropWhile isBlank
  := rfl

/-- A text that does not begin with a blank keeps its front when its end is trimmed. -/
theorem trimStart_trimEnd {t : Text} (h : trimStart t = t) :
  trimStart (trimEnd t) = trimEnd t
  := by
  rw [trimEnd_eq_rdropWhile]
  cases he : t.rdropWhile isBlank with
  | nil => rfl
  | cons c u =>
      have hp := List.rdropWhile_prefix isBlank (l := t)
      rw [he] at hp
      obtain ⟨v, hv⟩ := hp
      have hc : isBlank c = false := by
        rw [← hv, List.cons_append] at h
        by_contra hb
        have hl := congrArg List.length h
        have hd := (List.dropWhile_sublist isBlank (l := u ++ v)).length_le
        simp only [trimStart, List.dropWhile_cons_of_pos (Bool.not_eq_false _ ▸ hb),
          List.length_cons] at hl
        omega
      simp [trimStart, hc]

/-- A text whose ends are no blanks is trimmed. -/
theorem trim_of_ends {c d : Char} (hc : isBlank c = false) (hd : isBlank d = false) (t : Text) :
  trim (c :: (t ++ [d])) = c :: (t ++ [d])
  := by
  have hs : trimStart (c :: (t ++ [d])) = c :: (t ++ [d]) := by
    simp [trimStart, hc]
  rw [trim, hs, trimEnd_eq_rdropWhile, ← List.cons_append,
    List.rdropWhile_concat_neg _ _ _ (by simp [hd])]

/-- Trimming twice is trimming once. -/
theorem trim_trim (t : Text) :
  trim (trim t) = trim t
  := by
  have hs : trimStart (trimStart t) = trimStart t :=
    List.dropWhile_idempotent isBlank t
  rw [trim, trim, trimStart_trimEnd hs, trimEnd_eq_rdropWhile, trimEnd_eq_rdropWhile]
  apply List.rdropWhile_idempotent

/-- No letter vanishes in capitals. -/
theorem upperChar_ne_nil (c : Char) :
  upperChar c ≠ []
  := by
  have hexp : ∀ p ∈ upperMap.expansions, p.2 ≠ [] := by decide
  unfold upperChar CaseMap.find?
  split
  · next codes hl =>
    obtain ⟨before, after, he, -⟩ := List.lookup_eq_some_iff.mp hl
    have hm := hexp (c.toNat, codes) (by simp [he])
    simpa using hm
  · cases upperMap.runs.find? (·.covers c.toNat) <;> simp

/-- A text is empty in capitals exactly when it is empty. -/
theorem upper_eq_nil_iff {t : Text} :
  upper t = [] ↔ t = []
  := by
  cases t with
  | nil => simp [upper]
  | cons c t => simp [upper, upperChar_ne_nil]

end Text

end BranchingStory
