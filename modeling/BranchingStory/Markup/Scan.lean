import BranchingStory.Text.Blank

/-!
# Searching text

Two ways of searching a text that the markup readers share.  `Text.cutAt?` splits at
the first occurrence of a character; `Text.collect` runs a reader at every position
from the front, going on behind each thing it reads.
-/

namespace BranchingStory

namespace Text

/-- What stands before and after the first occurrence of `c`. -/
def cutAt? (c : Char) : Text → Option (Text × Text)
  | [] => none
  | d :: t => if d = c then some ([], t) else (cutAt? c t).map fun p => (d :: p.1, p.2)

theorem cutAt?_eq_some_iff {c : Char} {t before after : Text} :
  cutAt? c t = some (before, after) ↔ t = before ++ c :: after ∧ c ∉ before
  := by
  induction t generalizing before with
  | nil => simp [cutAt?]
  | cons d t ih =>
    by_cases h : d = c
    · subst h
      cases before with
      | nil => simp [cutAt?]
      | cons b before =>
        simp [cutAt?]
        intro hb _ hne
        exact absurd hb hne
    · cases before with
      | nil =>
        simp [cutAt?, h]
      | cons b before =>
        simp only [cutAt?, h, if_false, Option.map_eq_some_iff, Prod.exists, Prod.mk.injEq,
          List.cons.injEq, List.cons_append, List.mem_cons, not_or]
        constructor
        · rintro ⟨x, y, hxy, ⟨rfl, rfl⟩, rfl⟩
          obtain ⟨rfl, hn⟩ := ih.mp hxy
          exact ⟨⟨rfl, rfl⟩, fun hc => h hc.symm, hn⟩
        · rintro ⟨⟨rfl, rfl⟩, -, hn⟩
          exact ⟨before, after, ih.mpr ⟨rfl, hn⟩, ⟨rfl, rfl⟩, rfl⟩

/-- Everything that `read` reads when it is run at every position from the front; behind
each thing read the search goes on after it. -/
def collect {α : Type} (read : Text → Option (α × Text)) : Text → List α
  | [] => []
  | c :: t =>
    match read (c :: t) with
    | some (a, rest) =>
      if rest.length ≤ t.length then a :: collect read rest else collect read t
    | none => collect read t
termination_by t => t.length

/-- What stands before the first position where `read` succeeds, and what it leaves. -/
def until? (read : Text → Option Text) : Text → Option (Text × Text)
  | [] => none
  | c :: t =>
    match read (c :: t) with
    | some rest => some ([], rest)
    | none => (until? read t).map fun p => (c :: p.1, p.2)

end Text

end BranchingStory
