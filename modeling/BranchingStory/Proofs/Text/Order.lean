import BranchingStory.Text.Order

/-!
# The order of texts

Texts are ordered like the words of a dictionary, by the numbers of their characters.  The order
is total and decides between texts that differ.
-/

namespace BranchingStory

namespace Text

variable {s t u : Text}

/-- Texts are compared by their first characters, and by the others where these are the same. -/
theorem isAtMost_cons_iff {a b : Char} :
  isAtMost (a :: s) (b :: t) = true ↔ a.toNat < b.toNat ∨ a = b ∧ isAtMost s t = true
  := by
  simp [isAtMost]

/-- Of two texts one is at most the other. -/
theorem isAtMost_total (s t : Text) :
  isAtMost s t = true ∨ isAtMost t s = true
  := by
  induction s generalizing t with
  | nil => exact Or.inl rfl
  | cons a s ih =>
      cases t with
      | nil => exact Or.inr rfl
      | cons b t =>
          rw [isAtMost_cons_iff, isAtMost_cons_iff]
          obtain h | h | h := Nat.lt_trichotomy a.toNat b.toNat
          · exact Or.inl (Or.inl h)
          · have hab := Char.toNat_inj.mp h
            exact (ih t).imp (fun h => Or.inr ⟨hab, h⟩) fun h => Or.inr ⟨hab.symm, h⟩
          · exact Or.inr (Or.inl h)

/-- The order of texts is transitive. -/
theorem isAtMost_trans (h : isAtMost s t = true) (h' : isAtMost t u = true) :
  isAtMost s u = true
  := by
  induction s generalizing t u with
  | nil => rfl
  | cons a s ih =>
      cases t with
      | nil => cases h
      | cons b t =>
          cases u with
          | nil => cases h'
          | cons c u =>
              rw [isAtMost_cons_iff] at h h' ⊢
              obtain h | ⟨rfl, h⟩ := h
              · obtain h' | ⟨rfl, -⟩ := h'
                · exact Or.inl (Nat.lt_trans h h')
                · exact Or.inl h
              · exact h'.imp_right fun h' => ⟨h'.1, ih h h'.2⟩

/-- The order of texts is antisymmetric. -/
theorem isAtMost_antisymm (h : isAtMost s t = true) (h' : isAtMost t s = true) :
  s = t
  := by
  induction s generalizing t with
  | nil =>
      cases t with
      | nil => rfl
      | cons b t => cases h'
  | cons a s ih =>
      cases t with
      | nil => cases h
      | cons b t =>
          rw [isAtMost_cons_iff] at h h'
          obtain h | ⟨rfl, h⟩ := h
          · obtain h' | ⟨rfl, -⟩ := h'
            · omega
            · exact absurd h (Nat.lt_irrefl _)
          · obtain h' | ⟨-, h'⟩ := h'
            · exact absurd h' (Nat.lt_irrefl _)
            · rw [ih h h']

/-- A row of a character is at most a longer one. -/
theorem isAtMost_replicate {m n : Nat} (h : m ≤ n) (c : Char) :
  isAtMost (List.replicate m c) (List.replicate n c) = true
  := by
  induction m generalizing n with
  | zero => rfl
  | succ m ih =>
      obtain ⟨n, rfl⟩ := Nat.exists_eq_succ_of_ne_zero (Nat.ne_zero_of_lt h)
      rw [List.replicate_succ, List.replicate_succ, isAtMost_cons_iff]
      exact Or.inr ⟨rfl, ih (Nat.le_of_succ_le_succ h)⟩

/-- A text that stands before another one. -/
def Precedes (s t : Text) : Prop :=
  isAtMost s t = true ∧ s ≠ t

end Text

end BranchingStory
