import BranchingStory.Proofs.Text.CodeSet
import BranchingStory.Text.Numeral

/-!
# Numerals among digit-like words

A word of digit-like characters need not be a numeral: it may hold characters that show a digit
but are no decimal digits, or have more digits than a numeral may have.  Every other such word is
read as the number that its digits write: `Numeral.read_cases`.
-/

namespace BranchingStory

namespace Numeral

/-- A word of decimal digits and the number that they write. -/
structure Writes (word : Text) (n : Nat) : Prop where
  ne_nil : word ≠ []
  digits : ∃ ds, word.map decimalValue? = ds.map some ∧ n = ofDigits ds

/-- A word that looks like a number and is none: one of its characters is no decimal digit, or it
has too many. -/
structure Unreadable (word : Text) : Prop where
  ne_nil : word ≠ []
  digitLike : ∀ c ∈ word, isDigitLike c = true
  hindered : (∃ c ∈ word, decimalValue? c = none) ∨ digitLimit < word.length

variable {word : Text}

/-- Every character of a word of digits is a digit. -/
theorem exists_digit {ds : List Nat} (h : word.map decimalValue? = ds.map some) {c : Char}
    (hc : c ∈ word) :
  ∃ d, decimalValue? c = some d
  := by
  have hvalue : decimalValue? c ∈ ds.map some := by
    rw [← h]
    exact List.mem_map_of_mem hc
  obtain ⟨d, -, hd⟩ := List.mem_map.mp hvalue
  exact ⟨d, hd.symm⟩

/-- A word writes one number at most. -/
theorem Writes.unique {m n : Nat} (hm : Writes word m) (hn : Writes word n) :
  m = n
  := by
  obtain ⟨ds, hds, rfl⟩ := hm.digits
  obtain ⟨es, hes, rfl⟩ := hn.digits
  have heq : ds = es := by
    apply (List.map_inj_right fun _ _ => Option.some.inj).mp
    rw [← hds, hes]
  rw [heq]

/-- A word that writes a number looks like digits. -/
theorem Writes.isDigitLike {n : Nat} (h : Writes word n) :
  ∀ c ∈ word, isDigitLike c = true
  := by
  obtain ⟨ds, hds, -⟩ := h.digits
  intro c hc
  obtain ⟨d, hd⟩ := exists_digit hds hc
  exact isDigitLike_of_decimalValue? hd

/-! ### The digits in front -/

/-- The digits taken from a digit-like word are all those in front of the first character that is
no decimal digit. -/
theorem takeDigits_of_isDigitLike (h : ∀ c ∈ word, isDigitLike c = true) :
  ∃ ds front rest, takeDigits word = (ds, rest, true) ∧ word = front ++ rest
    ∧ front.map decimalValue? = ds.map some ∧ ∀ c ∈ rest.head?, decimalValue? c = none
  := by
  induction word with
  | nil => exact ⟨[], [], [], rfl, rfl, rfl, by simp⟩
  | cons c word ih =>
      obtain ⟨hc, hword⟩ := List.forall_mem_cons.mp h
      rw [takeDigits.eq_def]
      dsimp only
      cases hd : decimalValue? c with
      | none =>
          have hunderscore : c ≠ '_' := by
            rintro rfl
            exact absurd hc (by decide)
          rw [if_neg hunderscore]
          exact ⟨[], [], c :: word, rfl, rfl, rfl, by simpa using hd⟩
      | some d =>
          obtain ⟨ds, front, rest, htake, rfl, hfront, hrest⟩ := ih hword
          rw [htake]
          refine ⟨d :: ds, c :: front, rest, rfl, rfl, ?_, hrest⟩
          rw [List.map_cons, hd, hfront, List.map_cons]

/-! ### What is read -/

/-- A digit-like character does not stand around a numeral. -/
theorem isPadding_of_isDigitLike {c : Char} (h : isDigitLike c = true) :
  isPadding c = false
  := by
  cases hblank : isBlank c with
  | false => simp [isPadding, hblank]
  | true => simp [isDigitLike_of_isBlank hblank] at h

/-- There is neither padding nor a sign nor an underscore in front of a digit-like word. -/
theorem read_of_isDigitLike (h : ∀ c ∈ word, isDigitLike c = true) :
  read word
    = match takeDigits word with
      | (ds, rest, good) =>
        if !good then .error (.malformed word)
        else if digitLimit < ds.length then .error (.tooLong ds.length)
        else if ds.isEmpty || !rest.all isPadding then .error (.malformed word)
        else .ok (Int.ofNat (ofDigits ds))
  := by
  cases word with
  | nil => rfl
  | cons c word =>
      have hc := h c List.mem_cons_self
      have hplain : ∀ d, isDigitLike d = false → c ≠ d := by
        rintro d hd rfl
        rw [hc] at hd
        cases hd
      have hminus : c ≠ '-' := hplain '-' (by decide)
      have hplus : c ≠ '+' := hplain '+' (by decide)
      have hunderscore : c ≠ '_' := hplain '_' (by decide)
      have hsign : takeSign (c :: word) = (false, c :: word) := by
        simp [takeSign, hminus, hplus]
      simp [read, isPadding_of_isDigitLike hc, hsign, hunderscore]

/-- A word of digit-like characters is read as the number that it writes, or it is unreadable. -/
theorem read_cases (hne : word ≠ []) (h : ∀ c ∈ word, isDigitLike c = true) :
  (∃ n, Writes word n ∧ ¬ Unreadable word ∧ read word = .ok (Int.ofNat n))
    ∨ (Unreadable word ∧ ∃ f, read word = .error f)
  := by
  obtain ⟨ds, front, rest, htake, hword, hfront, hrest⟩ := takeDigits_of_isDigitLike h
  have hlength : front.length = ds.length := by simpa using congrArg List.length hfront
  rw [read_of_isDigitLike h, htake]
  cases rest with
  | nil =>
      obtain rfl : word = front := by simpa using hword
      have hds : ds ≠ [] := by
        rintro rfl
        apply hne
        simpa using hlength
      by_cases hlong : digitLimit < ds.length
      · right
        refine ⟨⟨hne, h, Or.inr (by omega)⟩, .tooLong ds.length, ?_⟩
        simp [hlong]
      · left
        refine ⟨ofDigits ds, ⟨hne, ds, hfront, rfl⟩, ?_, by simp [hlong, hds]⟩
        rintro ⟨-, -, ⟨c, hc, hnone⟩ | hmany⟩
        · obtain ⟨d, hd⟩ := exists_digit hfront hc
          rw [hnone] at hd
          cases hd
        · omega
  | cons c rest =>
      right
      have hc : decimalValue? c = none := hrest c rfl
      have hmem : c ∈ word := by simp [hword]
      have hpadding : isPadding c = false := isPadding_of_isDigitLike (h c hmem)
      refine ⟨⟨hne, h, Or.inl ⟨c, hmem, hc⟩⟩, ?_⟩
      by_cases hlong : digitLimit < ds.length
      · exact ⟨.tooLong ds.length, by simp [hlong]⟩
      · exact ⟨.malformed word, by simp [hlong, hpadding]⟩

end Numeral

end BranchingStory
