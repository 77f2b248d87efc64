import BranchingStory.Json.Reader
import BranchingStory.Json.Writer
import BranchingStory.Proofs.Number.Decimal
import BranchingStory.Proofs.Text.Digit

/-!
# Written numbers are read

The digits of an integer and the digits, the point and the exponent of a binary64 number are read
as the number that was written, whatever follows that is no part of a number.
-/

namespace BranchingStory

/-- What holds of all characters of a text is checked for one of them after the other. -/
theorem Text.forall_mem_of_all {P : Char → Prop} [DecidablePred P] {t : Text}
    (h : t.all (fun c => P c) = true) :
  ∀ c ∈ t, P c
  := by simpa using h

namespace Json

namespace Reader

/-! ### Parts of numbers -/

/-- A text that does not begin with a digit. -/
def EndsDigits (t : Text) : Prop :=
  ∀ c ∈ t.head?, asciiDigit? c = none

/-- A text that does not begin like a part of a number. -/
def EndsNumber (t : Text) : Prop :=
  ∀ c ∈ t.head?, asciiDigit? c = none ∧ c ≠ '.' ∧ c ≠ 'e' ∧ c ≠ 'E'

variable {limits : Limits} {ds es : List Nat} {t : Text}

/-- What ends a number ends its digits. -/
theorem EndsNumber.endsDigits (h : EndsNumber t) :
  EndsDigits t
  := fun c hc => (h c hc).1

/-- A character that is no digit ends digits. -/
theorem endsDigits_cons {c : Char} (hc : asciiDigit? c = none) (t : Text) :
  EndsDigits (c :: t)
  := by
  intro d hd
  rwa [← Option.some.inj hd]

/-- Digits are taken up to where no digit stands. -/
theorem takeDigits_map (hs : ∀ d ∈ ds, d < 10) (ht : EndsDigits t) :
  takeDigits (ds.map digitChar ++ t) = (ds, t)
  := by
  induction ds with
  | nil =>
      cases t with
      | nil => rfl
      | cons c t =>
          have hc : asciiDigit? c = none := ht c rfl
          rw [List.map_nil, List.nil_append, takeDigits, hc]
  | cons d ds ih =>
      obtain ⟨hd, hds⟩ := List.forall_mem_cons.mp hs
      rw [List.map_cons, List.cons_append, takeDigits, asciiDigit?_digitChar hd, ih hds]

/-- The digits in front of a point are taken: a single zero, or digits that begin otherwise. -/
theorem takeWhole_map {n : Nat} (h : IsDecimal ds n) (ht : EndsDigits t) :
  takeWhole (ds.map digitChar ++ t) = some (ds, t)
  := by
  obtain ⟨d, es, rfl, hlead⟩ := h.lead
  rw [takeWhole, takeDigits_map h.small ht]
  by_cases hd : d = 0
  · rw [hlead hd, hd]
    rfl
  · obtain ⟨d, rfl⟩ := Nat.exists_eq_succ_of_ne_zero hd
    rfl

/-- The digits behind a point are taken. -/
theorem takeFraction_map (hs : ∀ d ∈ ds, d < 10) (hne : ds ≠ []) (ht : EndsDigits t) :
  takeFraction ('.' :: (ds.map digitChar ++ t)) = some (ds, t)
  := by
  rw [takeFraction, takeDigits_map hs ht]
  cases ds with
  | nil => exact absurd rfl hne
  | cons d ds => rfl

/-- Without a point there is no fraction. -/
theorem takeFraction_eq_none (h : ∀ c ∈ t.head?, c ≠ '.') :
  takeFraction t = none
  := by
  cases t with
  | nil => rfl
  | cons c t =>
      rw [takeFraction]
      rintro rest he
      exact h c rfl (List.cons.inj he).1

/-- A sign in front of the digits of an exponent. -/
inductive ExponentSign : Text → Bool → Prop where
  | minus : ExponentSign ['-'] true
  | plus : ExponentSign ['+'] false
  | none : ExponentSign [] false

/-- The digits behind the mark of an exponent and its sign are taken. -/
theorem takeExponent_map {sign : Text} {negative : Bool} (hsign : ExponentSign sign negative)
    (hs : ∀ d ∈ ds, d < 10) (hne : ds ≠ []) (ht : EndsDigits t) :
  takeExponent ('e' :: (sign ++ (ds.map digitChar ++ t)))
    = some (if negative then -(ofDigits ds : Int) else ofDigits ds, t)
  := by
  obtain ⟨d, es, rfl⟩ := List.exists_cons_of_ne_nil hne
  have htake : takeDigits (digitChar d :: (es.map digitChar ++ t)) = (d :: es, t) :=
    takeDigits_map hs ht
  cases hsign with
  | minus => simp [takeExponent, htake]
  | plus => simp [takeExponent, htake]
  | none =>
      have hsign : digitChar d ≠ '-' ∧ digitChar d ≠ '+' := by
        have hall : ∀ d < 10, digitChar d ≠ '-' ∧ digitChar d ≠ '+' := by decide
        exact hall d (hs d List.mem_cons_self)
      simp [takeExponent, htake, hsign]

/-- Without a mark there is no exponent. -/
theorem takeExponent_eq_none (h : ∀ c ∈ t.head?, c ≠ 'e' ∧ c ≠ 'E') :
  takeExponent t = none
  := by
  cases t with
  | nil => rfl
  | cons c t =>
      have hc := h c rfl
      unfold takeExponent
      exact if_neg (by simp [hc])

/-! ### Numbers -/

/-- The sign of a number. -/
def signText (negative : Bool) : Text :=
  if negative then ['-'] else []

/-- A number is read by its sign, its digits and what stands behind them. -/
theorem number_eq (negative : Bool) {n : Nat} (h : IsDecimal ds n) (ht : EndsDigits t) :
  number limits (signText negative ++ (ds.map digitChar ++ t))
    = match takeFraction t, takeExponent ((takeFraction t).elim t (·.2)) with
      | none, none =>
        if integerLimit < ds.length then .error (.integerTooLong ds.length)
        else .ok (.int (if negative then -(ofDigits ds : Int) else ofDigits ds), t)
      | fraction, exponent =>
        if limits.countsAllNumbers && integerLimit < ds.length then
          .error (.integerTooLong ds.length)
        else
          .ok (.float (.ofDecimal negative (ofDigits (ds ++ fraction.elim [] (·.1)))
              (exponent.elim 0 (·.1) - (fraction.elim [] (·.1)).length)),
            exponent.elim (fraction.elim t (·.2)) (·.2))
  := by
  have hwhole := takeWhole_map h ht
  cases negative with
  | true =>
      unfold number
      simp only [signText, if_true, List.singleton_append]
      exact hwhole ▸ rfl
  | false =>
      obtain ⟨d, es, rfl, -⟩ := h.lead
      rw [List.map_cons, List.cons_append] at hwhole
      simp only [signText, Bool.false_eq_true, if_false, List.nil_append, List.map_cons,
        List.cons_append]
      generalize hc : digitChar d = c at hwhole
      have hsign : c ≠ '-' := by
        have hall : ∀ d < 10, digitChar d ≠ '-' := by decide
        rw [← hc]
        exact hall d (h.small d List.mem_cons_self)
      unfold number
      split
      next negative body hbody =>
        split at hbody
        · next hcons => exact absurd (List.cons.inj hcons).1 hsign
        · obtain ⟨rfl, rfl⟩ := Prod.mk.inj hbody
          rw [hwhole]
          rfl

/-- A number is none of the words. -/
theorem word?_number (negative : Bool) {d : Nat} (hd : d < 10) (t : Text) :
  word? (signText negative ++ digitChar d :: t) = none
  := by
  have hall : ∀ d < 10, ("ntfNI-" : Text).all (fun c => c ≠ digitChar d) = true := by decide
  have hne := Text.forall_mem_of_all (hall d hd)
  cases negative <;> simp_all [word?, signText, Text.after?]

/-- The characters that written numbers are made of. -/
def numberChars : Text := "0123456789+-.eNaInfity"

/-- A text that is read as a number or a word, whatever follows that is no part of a number. -/
structure Spells (limits : Limits) (u : Text) (v : Json) : Prop where
  read : ∀ t, EndsNumber t → scalar limits (u ++ t) = .ok (v, t)
  chars : ∀ c ∈ u, c ∈ numberChars
  ne_nil : u ≠ []

/-- Digits may stand in numbers. -/
theorem digitChar_mem {d : Nat} (h : d < 10) :
  digitChar d ∈ numberChars
  := by
  have hall : ∀ d < 10, digitChar d ∈ numberChars := by decide
  exact hall d h

/-- Written digits may stand in numbers. -/
theorem mem_numberChars_of_map (hs : ∀ d ∈ ds, d < 10) {c : Char} (hc : c ∈ ds.map digitChar) :
  c ∈ numberChars
  := by
  obtain ⟨d, hd, rfl⟩ := List.mem_map.mp hc
  exact digitChar_mem (hs d hd)

theorem mem_numberChars_of_sign {negative : Bool} {c : Char} (hc : c ∈ signText negative) :
  c ∈ numberChars
  := by
  cases negative with
  | true =>
      rw [List.mem_singleton.mp hc]
      decide
  | false => cases hc

/-- A sign, digits and what stands behind them spell a number when they are read as one. -/
theorem spells_of_number (negative : Bool) {n : Nat} (h : IsDecimal ds n) {u : Text} {v : Json}
    (hu : ∀ c ∈ u, c ∈ numberChars)
    (hread : ∀ t, EndsNumber t →
      number limits (signText negative ++ (ds.map digitChar ++ (u ++ t))) = .ok (v, t)) :
  Spells limits (signText negative ++ (ds.map digitChar ++ u)) v
  := by
  obtain ⟨d, es, rfl, -⟩ := h.lead
  refine ⟨fun t ht => ?_, fun c hc => ?_, by simp⟩
  · have hword := word?_number negative (h.small d List.mem_cons_self)
      (es.map digitChar ++ (u ++ t))
    have hnumber := hread t ht
    rw [List.map_cons, List.cons_append] at hnumber
    rw [List.map_cons, List.cons_append, List.append_assoc, List.cons_append, List.append_assoc,
      scalar, hword, hnumber]
  · rw [List.mem_append, List.mem_append] at hc
    obtain hc | hc | hc := hc
    · exact mem_numberChars_of_sign hc
    · exact mem_numberChars_of_map h.small hc
    · exact hu c hc

/-! ### Integers -/

/-- An integer is written as its sign and its digits. -/
theorem decimalText_eq (n : Int) :
  decimalText n = signText (decide (n < 0)) ++ decimalDigits n.natAbs
  := by
  cases n with
  | ofNat n => simp [decimalText, signText]
  | negSucc n =>
      have hneg : decide (Int.negSucc n < 0) = true := decide_eq_true (Int.negSucc_lt_zero n)
      rw [decimalText, hneg]
      rfl

/-- Integers are written in what may stand in numbers. -/
theorem mem_numberChars_of_decimalText {n : Int} {c : Char} (hc : c ∈ decimalText n) :
  c ∈ numberChars
  := by
  obtain ⟨ds, hds, htext⟩ := exists_isDecimal n.natAbs
  rw [decimalText_eq, htext, List.mem_append] at hc
  obtain hc | hc := hc
  · exact mem_numberChars_of_sign hc
  · exact mem_numberChars_of_map hds.small hc

/-- Every integer is written with some character. -/
theorem decimalText_ne_nil (n : Int) :
  decimalText n ≠ []
  := by
  obtain ⟨ds, hds, htext⟩ := exists_isDecimal n.natAbs
  obtain ⟨d, es, rfl, -⟩ := hds.lead
  rw [decimalText_eq, htext]
  simp

/-- An integer that is not too long is read. -/
theorem spells_int {n : Int} (h : (decimalDigits n.natAbs).length ≤ integerLimit) :
  Spells limits (decimalText n) (.int n)
  := by
  obtain ⟨ds, hds, htext⟩ := exists_isDecimal n.natAbs
  rw [htext, List.length_map] at h
  rw [decimalText_eq, htext]
  have hspells :
      Spells limits (signText (decide (n < 0)) ++ (ds.map digitChar ++ [])) (.int n) := by
    refine spells_of_number _ hds (fun c hc => absurd hc List.not_mem_nil) fun t ht => ?_
    have hfraction : takeFraction t = none := takeFraction_eq_none fun c hc => (ht c hc).2.1
    have hexponent : takeExponent t = none := takeExponent_eq_none fun c hc => (ht c hc).2.2
    rw [List.nil_append, number_eq _ hds ht.endsDigits, hfraction]
    simp only [Option.elim_none, hexponent]
    rw [if_neg (Nat.not_lt.mpr h), hds.value]
    congr
    by_cases hn : n < 0
    · simp only [hn, decide_true, if_true]
      omega
    · simp only [hn, decide_false, Bool.false_eq_true, if_false]
      omega
  rwa [List.append_nil] at hspells

/-! ### Binary64 numbers -/

/-- The digits behind a point. -/
def fractionText : List Nat → Text
  | [] => []
  | ds => '.' :: ds.map digitChar

/-- A mark, a sign and digits that write an exponent, or nothing. -/
inductive WritesExponent : Text → Int → Prop where
  | nothing : WritesExponent [] 0
  | marked {sign : Text} {negative : Bool} {ds : List Nat} (hsign : ExponentSign sign negative)
      (small : ∀ d ∈ ds, d < 10) (ne_nil : ds ≠ []) :
    WritesExponent ('e' :: (sign ++ ds.map digitChar))
      (if negative then -(ofDigits ds : Int) else ofDigits ds)

/-- Exponents are written in what may stand in numbers. -/
theorem WritesExponent.mem_numberChars {u : Text} {x : Int} (h : WritesExponent u x) {c : Char}
    (hc : c ∈ u) :
  c ∈ numberChars
  := by
  cases h with
  | nothing => cases hc
  | marked hsign small _ =>
      rw [List.mem_cons, List.mem_append] at hc
      obtain rfl | hc | hc := hc
      · decide
      · cases hsign with
        | minus =>
            rw [List.mem_singleton.mp hc]
            decide
        | plus =>
            rw [List.mem_singleton.mp hc]
            decide
        | none => cases hc
      · exact mem_numberChars_of_map small hc

/-- A written exponent is taken, and begins with neither a digit nor a point. -/
theorem WritesExponent.take {u : Text} {x : Int} (h : WritesExponent u x) (ht : EndsNumber t) :
  (takeExponent (u ++ t) = some (x, t) ∨ takeExponent (u ++ t) = none ∧ u = [] ∧ x = 0)
    ∧ EndsDigits (u ++ t) ∧ takeFraction (u ++ t) = none
  := by
  cases h with
  | nothing =>
      have hexponent : takeExponent t = none := takeExponent_eq_none fun c hc => (ht c hc).2.2
      have hfraction : takeFraction t = none := takeFraction_eq_none fun c hc => (ht c hc).2.1
      exact ⟨Or.inr ⟨hexponent, rfl, rfl⟩, ht.endsDigits, hfraction⟩
  | marked hsign small ne_nil =>
      rw [List.cons_append, List.append_assoc]
      refine ⟨Or.inl (takeExponent_map hsign small ne_nil ht.endsDigits), ?_, ?_⟩
      · exact endsDigits_cons (by decide) _
      · apply takeFraction_eq_none
        intro c hc
        rw [← Option.some.inj hc]
        decide

/-- Digits, a point with digits behind it and an exponent, not both of which are missing, are read
as the decimal that they write. -/
theorem spells_float (hlimits : limits.countsAllNumbers = false) (negative : Bool) {n : Nat}
    (h : IsDecimal ds n) (hs : ∀ d ∈ es, d < 10) {u : Text} {x : Int} (hu : WritesExponent u x)
    (hne : es ≠ [] ∨ u ≠ []) :
  Spells limits (signText negative ++ (ds.map digitChar ++ (fractionText es ++ u)))
    (.float (.ofDecimal negative (ofDigits (ds ++ es)) (x - es.length)))
  := by
  refine spells_of_number _ h (fun c hc => ?_) fun t ht => ?_
  · obtain hc | hc := List.mem_append.mp hc
    · cases es with
      | nil => cases hc
      | cons e es =>
          obtain rfl | hc := List.mem_cons.mp hc
          · decide
          · exact mem_numberChars_of_map hs hc
    · exact hu.mem_numberChars hc
  · obtain ⟨hexponent, hdigits, hfraction⟩ := hu.take ht
    rw [List.append_assoc]
    cases es with
    | nil =>
        obtain hexponent | ⟨-, hnil, -⟩ := hexponent
        · rw [fractionText, List.nil_append, number_eq _ h hdigits, hfraction]
          simp only [Option.elim_none, hexponent, hlimits]
          simp
        · exact absurd hnil (hne.resolve_left fun hes => hes rfl)
    | cons e es =>
        have htake : takeFraction (fractionText (e :: es) ++ (u ++ t)) = some (e :: es, u ++ t) :=
          takeFraction_map hs (List.cons_ne_nil e es) hdigits
        have hpoint : EndsDigits (fractionText (e :: es) ++ (u ++ t)) :=
          endsDigits_cons (by decide) _
        rw [number_eq _ h hpoint, htake]
        obtain hexponent | ⟨hexponent, rfl, rfl⟩ := hexponent
        · simp only [Option.elim_some, hexponent, hlimits]
          simp
        · rw [List.nil_append] at hexponent
          simp only [List.nil_append, Option.elim_some, hexponent, hlimits]
          simp

theorem replicate_zero_small {k : Nat} :
  ∀ d ∈ List.replicate k 0, d < 10
  := by
  intro d hd
  rw [List.eq_of_mem_replicate hd]
  decide

/-- A fraction with digits is a point with these digits behind it. -/
theorem fractionText_of_ne_nil (h : es ≠ []) :
  fractionText es = '.' :: es.map digitChar
  := by
  cases es with
  | nil => exact absurd rfl h
  | cons e es => rfl

/-- A written exponent writes the exponent. -/
theorem writesExponent (s : PointStyle) (x : Int) :
  WritesExponent ('e' :: s.exponentText x) x
  := by
  obtain ⟨ds, hds, htext⟩ := exists_isDecimal x.natAbs
  obtain ⟨sign, hsign, heq⟩ : ∃ sign, ExponentSign sign (decide (x < 0))
      ∧ (if x < 0 then ['-'] else if s.plusSign then ['+'] else []) = sign := by
    refine ⟨_, ?_, rfl⟩
    split_ifs with hx hplus
    · rw [decide_eq_true hx]
      exact .minus
    · rw [decide_eq_false hx]
      exact .plus
    · rw [decide_eq_false hx]
      exact .none
  have hne : List.replicate (s.exponentWidth - ds.length) 0 ++ ds ≠ [] := by
    obtain ⟨d, es, rfl, -⟩ := hds.lead
    simp
  have hsmall : ∀ d ∈ List.replicate (s.exponentWidth - ds.length) 0 ++ ds, d < 10 :=
    List.forall_mem_append.mpr ⟨replicate_zero_small, hds.small⟩
  have hwrites := WritesExponent.marked hsign hsmall hne
  have hvalue : (if decide (x < 0) then
        -(ofDigits (List.replicate (s.exponentWidth - ds.length) 0 ++ ds) : Int)
      else ofDigits (List.replicate (s.exponentWidth - ds.length) 0 ++ ds)) = x := by
    rw [ofDigits_zeros_append, hds.value]
    simp only [decide_eq_true_eq]
    split_ifs <;> omega
  rw [hvalue, List.map_append, List.map_replicate] at hwrites
  rw [PointStyle.exponentText, htext, List.length_map, heq, List.append_assoc]
  exact hwrites

/-- One digit is a decimal numeral. -/
theorem isDecimal_singleton {d : Nat} (h : d < 10) :
  IsDecimal [d] d
  := by
  refine ⟨fun e he => ?_, ofDigits_singleton d, d, [], rfl, fun _ => rfl⟩
  rwa [List.mem_singleton.mp he]

variable (negative : Bool) {d : Nat} {p : Int}

/-- A decimal is read whose digits stand behind a point and zeros. -/
theorem spells_below (hlimits : limits.countsAllNumbers = false) (h : IsDecimal ds d) {k : Nat}
    (hk : (ds.length : Int) + p = -k) :
  Spells limits (signText negative ++ (['0', '.'] ++ List.replicate k '0' ++ ds.map digitChar))
    (.float (.ofDecimal negative d p))
  := by
  have hne : List.replicate k 0 ++ ds ≠ [] := by
    obtain ⟨d, es, rfl, -⟩ := h.lead
    simp
  have hspells := spells_float hlimits negative (isDecimal_singleton (by decide : 0 < 10))
    (List.forall_mem_append.mpr ⟨replicate_zero_small, h.small⟩) .nothing (Or.inl hne)
  have hdigits : ofDigits ([0] ++ (List.replicate k 0 ++ ds)) = d := by
    rw [ofDigits_append, ofDigits_zeros_append, h.value]
    simp
  have hscale : (0 : Int) - (List.replicate k 0 ++ ds).length = p := by
    rw [List.length_append, List.length_replicate]
    push_cast
    omega
  have hzero : digitChar 0 = '0' := rfl
  rw [hdigits, hscale, fractionText_of_ne_nil hne, List.map_append, List.map_replicate] at hspells
  simpa [hzero] using hspells

/-- A decimal is read whose digits and the zeros behind them stand in front of a point. -/
theorem spells_whole (hlimits : limits.countsAllNumbers = false) (h : IsDecimal ds d) {k : Nat}
    (hk : d = 0 ∧ k = 0 ∨ d ≠ 0 ∧ p = k) :
  Spells limits (signText negative ++ (ds.map digitChar ++ List.replicate k '0' ++ ['.', '0']))
    (.float (.ofDecimal negative d p))
  := by
  have hlead : ∃ e es, ds ++ List.replicate k 0 = e :: es ∧ (e = 0 → es = []) := by
    obtain ⟨-, rfl⟩ | ⟨hd, -⟩ := hk
    · simpa using h.lead
    · obtain ⟨e, es, rfl, he⟩ := h.lead_ne_zero hd
      exact ⟨e, _, rfl, fun hzero => absurd hzero he⟩
  have hsmall : ∀ e ∈ ds ++ List.replicate k 0, e < 10 :=
    List.forall_mem_append.mpr ⟨h.small, replicate_zero_small⟩
  have hwhole : IsDecimal (ds ++ List.replicate k 0) (d * 10 ^ k) :=
    ⟨hsmall, by rw [ofDigits_append_zeros, h.value], hlead⟩
  have hvalue : Binary64.ofDecimal negative (ofDigits (ds ++ List.replicate k 0 ++ [0])) (0 - 1)
      = .ofDecimal negative d p := by
    rw [ofDigits_append, hwhole.value, ofDigits_singleton, Nat.add_zero, Nat.mul_assoc,
      List.length_singleton, ← Nat.pow_add, Binary64.ofDecimal_mul_pow]
    obtain ⟨rfl, -⟩ | ⟨-, rfl⟩ := hk
    · rw [Binary64.ofDecimal_zero, Binary64.ofDecimal_zero]
    · congr 1
      push_cast
      ring
  have hspells := spells_float hlimits negative hwhole
    (fun e he => (List.mem_singleton.mp he).trans_lt (by decide) : ∀ e ∈ [0], e < 10) .nothing
    (Or.inl (by simp))
  rw [List.length_singleton, Nat.cast_one, hvalue, List.map_append, List.map_replicate] at hspells
  exact hspells

/-- A decimal is read whose digits stand around a point. -/
theorem spells_inside (hlimits : limits.countsAllNumbers = false) (h : IsDecimal ds d) {k : Nat}
    (hpos : 0 < k) (hlt : k < ds.length) (hp : (ds.length : Int) + p = k) :
  Spells limits (signText negative
      ++ ((ds.take k).map digitChar ++ '.' :: (ds.drop k).map digitChar))
    (.float (.ofDecimal negative d p))
  := by
  have hsmall : (∀ e ∈ ds.take k, e < 10) ∧ ∀ e ∈ ds.drop k, e < 10 :=
    ⟨fun e he => h.small e (List.mem_of_mem_take he),
      fun e he => h.small e (List.mem_of_mem_drop he)⟩
  have hne : ds.drop k ≠ [] := by
    rw [Ne, List.drop_eq_nil_iff]
    omega
  have hwhole : IsDecimal (ds.take k) (ofDigits (ds.take k)) := by
    refine ⟨hsmall.1, rfl, ?_⟩
    obtain ⟨e, es, rfl, hlead⟩ := h.lead
    obtain ⟨k, rfl⟩ := Nat.exists_eq_succ_of_ne_zero hpos.ne'
    refine ⟨e, es.take k, rfl, fun he => ?_⟩
    rw [hlead he, List.take_nil]
  have hscale : (0 : Int) - (ds.drop k).length = p := by
    rw [List.length_drop]
    omega
  have hspells := spells_float hlimits negative hwhole hsmall.2 .nothing (Or.inl hne)
  rwa [List.take_append_drop, h.value, hscale, fractionText_of_ne_nil hne, List.append_nil]
    at hspells

/-- A decimal is read whose digits stand around a point or in front of none, with an exponent. -/
theorem spells_marked (hlimits : limits.countsAllNumbers = false) (s : PointStyle) {e : Nat}
    (h : IsDecimal (e :: es) d) {x : Int} (hx : d = 0 ∨ x - es.length = p) :
  Spells limits (signText negative
      ++ ([digitChar e] ++ (fractionText es ++ 'e' :: s.exponentText x)))
    (.float (.ofDecimal negative d p))
  := by
  obtain ⟨he, hes⟩ := List.forall_mem_cons.mp h.small
  have hspells := spells_float hlimits negative (isDecimal_singleton he) hes (writesExponent s x)
    (Or.inr (by simp))
  have hvalue : Binary64.ofDecimal negative (ofDigits ([e] ++ es)) (x - es.length)
      = .ofDecimal negative d p := by
    rw [List.singleton_append, h.value]
    obtain rfl | rfl := hx
    · rw [Binary64.ofDecimal_zero, Binary64.ofDecimal_zero]
    · rfl
  rwa [hvalue] at hspells

/-- A decimal is read whose point stands behind some of its digits, or behind all and zeros. -/
theorem spells_placed (hlimits : limits.countsAllNumbers = false) (h : IsDecimal ds d) {n : Nat}
    (hn : 0 < n) (hpoint : (if d = 0 then 1 else (ds.length : Int) + p) = n) :
  let fraction := (ds.map digitChar).drop n
  Spells limits (signText negative
      ++ ((ds.map digitChar).take n ++ List.replicate (n - ds.length) '0' ++ ['.']
        ++ (if fraction.isEmpty then ['0'] else fraction)))
    (.float (.ofDecimal negative d p))
  := by
  intro fraction
  by_cases hshort : ds.length ≤ n
  · have hdrop : fraction = [] := List.drop_eq_nil_of_le (by rwa [List.length_map])
    have htake : (ds.map digitChar).take n = ds.map digitChar :=
      List.take_of_length_le (by rwa [List.length_map])
    have hzeros : d = 0 ∧ n - ds.length = 0 ∨ d ≠ 0 ∧ p = (n - ds.length : Nat) := by
      by_cases hd : d = 0
      · obtain rfl := hd
        obtain rfl := h.eq_singleton
        rw [if_pos rfl] at hpoint
        exact Or.inl ⟨rfl, by simp; omega⟩
      · rw [if_neg hd] at hpoint
        exact Or.inr ⟨hd, by omega⟩
    have hspells := spells_whole negative hlimits h hzeros
    rw [hdrop, htake]
    simpa using hspells
  · have hd : d ≠ 0 := by
      rintro rfl
      obtain rfl := h.eq_singleton
      rw [if_pos rfl] at hpoint
      simp at hshort
      omega
    rw [if_neg hd] at hpoint
    have hspells := spells_inside negative hlimits h hn (by omega) hpoint
    have hdrop : fraction.isEmpty = false := by
      simp [fraction]
      omega
    have hzeros : n - ds.length = 0 := by omega
    rw [hdrop, hzeros, ← List.map_take]
    simpa [fraction, List.map_drop] using hspells

/-- A decimal is read however its point is placed. -/
theorem spells_render (hlimits : limits.countsAllNumbers = false) (s : PointStyle) (d : Nat)
    (p : Int) :
  Spells limits (signText negative ++ s.render d p) (.float (.ofDecimal negative d p))
  := by
  obtain ⟨ds, hds, htext⟩ := exists_isDecimal d
  rw [PointStyle.render, htext]
  dsimp only
  rw [List.length_map]
  generalize hpoint : (if d = 0 then 1 else (ds.length : Int) + p) = point
  by_cases hplain : s.least ≤ point ∧ point ≤ s.most
  · rw [if_pos hplain]
    by_cases hbelow : point ≤ 0
    · have hd : d ≠ 0 := by
        rintro rfl
        rw [if_pos rfl] at hpoint
        omega
      rw [if_neg hd] at hpoint
      rw [if_pos hbelow]
      apply spells_below negative hlimits hds
      omega
    · obtain ⟨n, rfl⟩ : ∃ n : Nat, point = n := ⟨point.toNat, by omega⟩
      rw [if_neg hbelow, Int.toNat_natCast]
      exact spells_placed negative hlimits hds (by omega) hpoint
  · rw [if_neg hplain]
    obtain ⟨e, es, rfl, -⟩ := hds.lead
    have hscale : d = 0 ∨ point - 1 - es.length = p := by
      by_cases hd : d = 0
      · exact Or.inl hd
      · rw [if_neg hd, List.length_cons] at hpoint
        push_cast at hpoint
        exact Or.inr (by omega)
    have hspells := spells_marked negative hlimits s hds hscale
    cases es with
    | nil => simpa [fractionText] using hspells
    | cons e' es => simpa [fractionText] using hspells

/-- A binary64 number is read, in a style that has words for those that are not finite. -/
theorem spells_floatText (hlimits : limits.countsAllNumbers = false) {s : NumberStyle}
    (hs : s.nullForNonFinite = false) {x : Binary64} (hx : x.IsProper) :
  Spells limits (floatText s x) (.float x)
  := by
  cases x with
  | finite negative m e =>
      have hspells := spells_render negative hlimits s.point (Shortest.digits m e).1
        (Shortest.digits m e).2
      rw [Shortest.ofDecimal_digits hx] at hspells
      exact hspells
  | nan =>
      rw [floatText, hs]
      · exact ⟨fun t _ => rfl, Text.forall_mem_of_all (by decide), by decide⟩
      · nofun
  | infinite negative =>
      rw [floatText, hs]
      · cases negative with
        | true => exact ⟨fun t _ => rfl, Text.forall_mem_of_all (by decide), by decide⟩
        | false => exact ⟨fun t _ => rfl, Text.forall_mem_of_all (by decide), by decide⟩
      · nofun

end Reader

end Json

end BranchingStory
