import BranchingStory.Proofs.Json.Proper

/-!
# What is read is written and read again

A value that is read holds nothing beyond the limits, only binary64 numbers of the format and only
proper strings: `Json.fits_of_readWithin`.  So it can be written, and with the members of its objects
merged it is read again from what was written: `Json.readMerged_write_of_readMerged`.
-/

namespace BranchingStory

namespace Json

variable {limits : Limits} {v : Json} {t : Text}

namespace Reader

variable {fuel room : Nat} {rest : Text} {ds : List Nat} {vs : List Json} {ms : List (Str × Json)}

/-! ### Strings -/

/-- A string with a character in front is as proper as it was. -/
theorem isProper_cons {s : Str} {c : Char} (h : s.IsProper) :
  (s.cons c).IsProper
  := by
  cases s with
  | text t => trivial
  | half lead h' rest => exact h

/-- A character stands in front of a string that was read. -/
theorem prepend_eq_ok {c : Char} {r : Result Str} {s : Str} (h : prepend c r = .ok (s, rest)) :
  ∃ s', r = .ok (s', rest) ∧ s = s'.cons c
  := by
  obtain _ | ⟨s', rest'⟩ := r
  · cases h
  · cases h
    exact ⟨s', rfl, rfl⟩

/-- A half stands in front of a string that was read. -/
theorem prependHalf_eq_ok {h : Half} {r : Result Str} {s : Str}
    (hr : prependHalf limits t h r = .ok (s, rest)) :
  ∃ s', r = .ok (s', rest) ∧ s = s'.consHalf h
  := by
  obtain _ | ⟨s', rest'⟩ := r
  · rw [prependHalf] at hr
    split_ifs at hr
    cases hr
  · rw [prependHalf] at hr
    split_ifs at hr
    · cases hr
      exact ⟨s', rfl, rfl⟩
    · cases hr

/-- No string that begins with a character begins with a half. -/
theorem opensWithSecond_cons (c : Char) (s : Str) :
  (s.cons c).opensWithSecond = false
  := by
  cases s <;> rfl

/-- What a string that is read up to `rest` can be: it ends at once, or it is a shorter one with a
character in front, or with a half that makes no pair. -/
inductive ReadsString (limits : Limits) (start rest : Text) : Text → Str → Prop where
  | done {t : Text} : ReadsString limits start rest t (.text [])
  | char {t u : Text} {c : Char} {s : Str} (hu : u.length < t.length)
      (hs : string limits start u = .ok (s, rest)) :
    ReadsString limits start rest t (s.cons c)
  | half {u u' : Text} {n : Nat} {h : Half} {s : Str} (hn : takeUnit? u = some (n, u'))
      (hh : Half.ofCode? n = some h) (hf : follower h u' = .none)
      (hs : string limits start u' = .ok (s, rest)) :
    ReadsString limits start rest ('\\' :: 'u' :: u) (s.consHalf h)

/-- A string is read in one of these ways. -/
theorem readsString_of_string {start : Text} {s : Str}
    (h : string limits start t = .ok (s, rest)) :
  ReadsString limits start rest t s
  := by
  have hchar {c : Char} {u : Text} (hu : u.length < t.length)
      (hr : prepend c (string limits start u) = .ok (s, rest)) :
      ReadsString limits start rest t s := by
    obtain ⟨s', hs', rfl⟩ := prepend_eq_ok hr
    exact .char hu hs'
  rw [string.eq_def] at h
  split at h
  · cases h
  · cases h
    exact .done
  · next u =>
    split at h
    · cases h
    · next n u' hn =>
      have hu' := takeUnit?_length hn
      split at h
      · exact hchar (by simp only [List.length_cons]; omega) h
      · next half hhalf =>
        split at h
        · next hf =>
          obtain ⟨s', hs', rfl⟩ := prependHalf_eq_ok h
          exact .half hn hhalf hf hs'
        · next second u'' hf =>
          have hu'' := follower_second_length hf
          exact hchar (by simp only [List.length_cons]; omega) h
        · cases h
  · cases h
  · split at h
    · exact hchar (by simp only [List.length_cons]; omega) h
    · cases h
  · split_ifs at h
    · cases h
    · exact hchar (by simp only [List.length_cons]; omega) h

/-- A string that is read begins with a second half only when that makes a pair with a half in
front of it. -/
theorem opensWithSecond_of_string {start : Text} {s : Str} (h : string limits start t = .ok (s, rest))
    {first : Half} (hfirst : first.isFirst = true) (hf : follower first t = .none) :
  s.opensWithSecond = false
  := by
  cases readsString_of_string h with
  | done => rfl
  | char => exact opensWithSecond_cons _ _
  | @half _ _ _ second _ hn hsecond _ _ =>
      -- a second half that stands here would have made a pair
      cases hs : second.isFirst with
      | true => rw [Str.consHalf, Str.opensWithSecond, hs, Bool.not_true]
      | false =>
          rw [follower, if_pos hfirst, behindEscape?] at hf
          simp [hn, hsecond, hs] at hf

/-- A string that is read is proper. -/
theorem isProper_of_string {start : Text} {s : Str} (h : string limits start t = .ok (s, rest)) :
  s.IsProper
  := by
  induction hn : t.length using Nat.strong_induction_on generalizing t s with
  | _ n ih =>
      subst hn
      cases readsString_of_string h with
      | done => trivial
      | char hu hs => exact isProper_cons (ih _ hu hs rfl)
      | half hn _ hf hs =>
          have hu := takeUnit?_length hn
          exact ⟨fun hfirst => opensWithSecond_of_string hs hfirst hf,
            ih _ (by simp only [List.length_cons]; omega) hs rfl⟩

/-! ### Numbers and words -/

/-- The digits that are taken are below ten. -/
theorem takeDigits_small (t : Text) :
  ∀ d ∈ (takeDigits t).1, d < 10
  := by
  induction t with
  | nil => exact List.forall_mem_nil _
  | cons c t ih =>
      rw [takeDigits]
      cases hc : asciiDigit? c with
      | none => exact List.forall_mem_nil _
      | some d =>
          have hd : d < 10 := by
            rw [asciiDigit?] at hc
            split_ifs at hc
            obtain rfl := Option.some.inj hc
            omega
          exact List.forall_mem_cons.mpr ⟨hd, ih⟩

/-- What is taken in front of a point is at least one digit. -/
theorem takeWhole_small (h : takeWhole t = some (ds, rest)) :
  0 < ds.length ∧ ∀ d ∈ ds, d < 10
  := by
  have hsmall := takeDigits_small t
  rw [takeWhole] at h
  split at h
  · cases h
  · cases h
    exact ⟨Nat.one_pos, by decide⟩
  · next hnil _ htake =>
    cases h
    rw [htake] at hsmall
    exact ⟨List.length_pos_of_ne_nil hnil, hsmall⟩

/-- An integer has no more digits than its text. -/
theorem fits_int {n : Int} (hpos : 0 < ds.length) (hds : ∀ d ∈ ds, d < 10)
    (hn : n.natAbs = ofDigits ds) (hlimit : ds.length ≤ integerLimit) :
  (int n).Fits room
  := by
  have hlength : (decimalDigits n.natAbs).length ≤ ds.length :=
    length_decimalDigits_le hpos (hn ▸ ofDigits_lt hds)
  refine ⟨?_, nofun, nofun⟩
  rw [excess?]
  exact if_neg (by omega)

theorem fits_float {x : Binary64} (h : x.IsProper) :
  (float x).Fits room
  := by
  have hzero : (float x).Fits 0 := ⟨rfl, List.forall_mem_singleton.mpr h, nofun⟩
  exact hzero.of_zero room

/-- A proper string fits everywhere. -/
theorem fits_str {s : Str} (h : s.IsProper) :
  (str s).Fits room
  := by
  have hzero : (str s).Fits 0 := ⟨rfl, nofun, List.forall_mem_singleton.mpr h⟩
  exact hzero.of_zero room

/-- A number that is read fits everywhere. -/
theorem fits_of_number (h : number limits t = .ok (v, rest)) :
  v.Fits room
  := by
  unfold number at h
  dsimp only at h
  split at h
  · cases h
  · next hwhole =>
    obtain ⟨hpos, hsmall⟩ := takeWhole_small hwhole
    split at h
    · split at h
      · cases h
      · next hlong =>
        cases h
        refine fits_int hpos hsmall ?_ (Nat.le_of_not_lt hlong)
        split_ifs
        · rw [Int.natAbs_neg, Int.natAbs_natCast]
        · rw [Int.natAbs_natCast]
    · split at h
      · cases h
      · cases h
        exact fits_float (Binary64.isProper_ofDecimal _ _ _)

/-- A word that is read fits everywhere. -/
theorem fits_of_word? (h : word? t = some (v, rest)) :
  v.Fits room
  := by
  obtain ⟨w, hw, hrest⟩ := List.exists_of_findSome?_eq_some h
  obtain ⟨r, -, heq⟩ := Option.map_eq_some_iff.mp hrest
  obtain rfl : w.2 = v := congrArg Prod.fst heq
  have hwords : ∀ w ∈ ([("null", .null), ("true", .bool true), ("false", .bool false),
      ("NaN", .float .nan), ("Infinity", .float (.infinite false)),
      ("-Infinity", .float (.infinite true))] : List (Text × Json)), w.2.Fits 0 := by
    decide
  exact (hwords w hw).of_zero room

/-- Whatever is neither a string nor an array nor an object fits everywhere when it is read. -/
theorem fits_of_scalar (h : scalar limits t = .ok (v, rest)) :
  v.Fits room
  := by
  rw [scalar] at h
  split at h
  · next hword =>
    cases h
    exact fits_of_word? hword
  · exact fits_of_number h

/-! ### Values -/

/-- What is read with so much fuel fits the room that there is for it. -/
structure ReadsFit (limits : Limits) (fuel : Nat) : Prop where
  value : ∀ {room t v rest}, Reader.value limits fuel room t = .ok (v, rest) → v.Fits room
  items : ∀ {room t vs rest}, Reader.items limits fuel room t = .ok (vs, rest) →
    ∀ v ∈ vs, v.Fits room
  members : ∀ {room t ms rest}, Reader.members limits fuel room t = .ok (ms, rest) →
    ∀ m ∈ ms, m.1.IsProper ∧ m.2.Fits room

/-- One more step reads a value that fits, if all steps further in do. -/
theorem ReadsFit.value_succ (h : ReadsFit limits fuel)
    (hread : Reader.value limits (fuel + 1) room t = .ok (v, rest)) :
  v.Fits room
  := by
  unfold Reader.value at hread
  split at hread
  · split at hread
    · next hstring =>
      cases hread
      exact fits_str (isProper_of_string hstring)
    · cases hread
  · split at hread
    · cases hread
    · split at hread
      · cases hread
        exact fits_arr.mpr (List.forall_mem_nil _)
      · split at hread
        · next hitems =>
          cases hread
          exact fits_arr.mpr (h.items hitems)
        · cases hread
  · split at hread
    · cases hread
    · split at hread
      · cases hread
        exact fits_obj.mpr (List.forall_mem_nil _)
      · split at hread
        · next hmembers =>
          cases hread
          exact fits_obj.mpr (h.members hmembers)
        · cases hread
  · exact fits_of_scalar hread

/-- One more step reads items that fit, if all steps further in do. -/
theorem ReadsFit.items_succ (h : ReadsFit limits fuel)
    (hread : Reader.items limits (fuel + 1) room t = .ok (vs, rest)) :
  ∀ v ∈ vs, v.Fits room
  := by
  unfold Reader.items at hread
  split at hread
  · cases hread
  · next hvalue =>
    split at hread
    · cases hread
      exact List.forall_mem_singleton.mpr (h.value hvalue)
    · split at hread
      · next hmore =>
        cases hread
        exact List.forall_mem_cons.mpr ⟨h.value hvalue, h.items hmore⟩
      · cases hread
    · cases hread

/-- One more step reads members that fit, if all steps further in do. -/
theorem ReadsFit.members_succ (h : ReadsFit limits fuel)
    (hread : Reader.members limits (fuel + 1) room t = .ok (ms, rest)) :
  ∀ m ∈ ms, m.1.IsProper ∧ m.2.Fits room
  := by
  unfold Reader.members at hread
  split at hread
  · split at hread
    · cases hread
    · next hstring =>
      have hname := isProper_of_string hstring
      split at hread
      · split at hread
        · cases hread
        · next hvalue =>
          split at hread
          · cases hread
            exact List.forall_mem_singleton.mpr ⟨hname, h.value hvalue⟩
          · split at hread
            · next hmore =>
              cases hread
              exact List.forall_mem_cons.mpr ⟨⟨hname, h.value hvalue⟩, h.members hmore⟩
            · cases hread
          · cases hread
      · cases hread
  · cases hread

/-- What is read fits, however much fuel there is. -/
theorem readsFit (limits : Limits) (fuel : Nat) :
  ReadsFit limits fuel
  := by
  induction fuel with
  | zero => exact ⟨nofun, nofun, nofun⟩
  | succ fuel ih => exact ⟨ih.value_succ, ih.items_succ, ih.members_succ⟩

end Reader

/-- A value that is read holds nothing that could not be written. -/
theorem fits_of_readWithin (h : readWithin limits t = .ok v) :
  v.Fits limits.depth
  := by
  have hdocument : Reader.document limits t = .ok v := by
    unfold readWithin at h
    split at h
    · next hread =>
      cases h
      exact hread
    · cases h
    · cases h
    · cases h
  unfold Reader.document at hdocument
  split at hdocument
  · cases hdocument
  · next hvalue =>
    split at hdocument
    · cases hdocument
      exact (Reader.readsFit _ _).value hvalue
    · cases hdocument

/-- With its members merged, a value that is read is proper and can be written. -/
theorem isProper_of_readMerged {room : Room} (h : readMerged room t = .ok v) :
  v.IsProper ∧ v.Fits room.depth
  := by
  cases hread : read room t with
  | error f =>
      rw [readMerged, hread] at h
      cases h
  | ok w =>
      rw [readMerged, hread] at h
      cases h
      exact Fits.merged w (fits_of_readWithin hread)

/-- What is read and written is read again. -/
theorem readMerged_write_of_readMerged {room : Room} {l : Layout} (hl : l.IsGapped)
    (hs : l.numbers.nullForNonFinite = false) (h : readMerged room t = .ok v) :
  readMerged room (write l v) = .ok v
  := by
  obtain ⟨hproper, hfits⟩ := isProper_of_readMerged h
  exact (hproper.readMerged_write hl hs hfits.excess).2

end Json

end BranchingStory
