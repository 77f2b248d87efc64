import BranchingStory.Proofs.Markup.Pieces

/-!
# Where blocks stand

A site says by positions where a finished block stands in a text: where its opening tag
starts and ends, where its closing tag starts, and where that ends.  `Site.StandsIn` is
the plain description of such positions, which does not mention the scanner.  The scanner
finds exactly the sites of a text, in their order: `Parser.feed_sites`.
-/

namespace BranchingStory

namespace Ending

/-- A text begins with an inner part and a closing tag, and at no position of the inner part
there is a closing tag or an opener. -/
structure Closes (k : BlockKind) (t inner closing rest : Text) : Prop where
  text : t = inner ++ (closing ++ rest)
  closing : TagName.closing? k.name (closing ++ rest) = some (closing, rest)
  first : ∀ j < inner.length, TagName.closing? k.name (t.drop j) = none
    ∧ Opener.at? (t.drop j) = none

variable {k : BlockKind} {t inner closing rest : Text} {c d : Char}

theorem not_closes_nil :
  ¬ Closes k [] inner closing rest
  := by
  intro h
  obtain ⟨spelling, blanks, -, -, hc, -⟩ := TagName.closing?_eq_some_iff.mp h.closing
  have ht := h.text
  rw [hc] at ht
  simp at ht

/-- A text closes at once when it begins with a closing tag. -/
theorem closes_nil_iff :
  Closes k t [] closing rest ↔ TagName.closing? k.name t = some (closing, rest)
  := by
  constructor
  · intro h
    have ht := h.text
    rw [List.nil_append] at ht
    rw [ht, h.closing]
  · intro h
    obtain ⟨spelling, blanks, -, -, -, ht⟩ := TagName.closing?_eq_some_iff.mp h
    exact ⟨ht, ht ▸ h, by simp⟩

/-- A text closes later when neither a closing tag nor an opener is at its front. -/
theorem closes_cons_iff :
  Closes k (c :: t) (d :: inner) closing rest
    ↔ (TagName.closing? k.name (c :: t) = none ∧ Opener.at? (c :: t) = none)
        ∧ c = d ∧ Closes k t inner closing rest
  := by
  constructor
  · intro h
    obtain ⟨hd, ht⟩ := List.cons.inj h.text
    refine ⟨h.first 0 (by simp), hd, ht, h.closing, ?_⟩
    intro j hj
    apply h.first (j + 1) (by simpa using hj)
  · rintro ⟨hfront, rfl, h⟩
    refine ⟨by rw [h.text, List.cons_append], h.closing, ?_⟩
    rintro (_ | j) hj
    · exact hfront
    · apply h.first j (by simpa using hj)

/-- A text goes on to the closing tag at its first position with a closing tag or an
opener. -/
theorem of_eq_closed_iff :
  Ending.of k t = .closed inner closing rest ↔ Closes k t inner closing rest
  := by
  induction t generalizing inner with
  | nil => simp [Ending.of, not_closes_nil]
  | cons c t ih =>
      simp only [Ending.of]
      cases hc : TagName.closing? k.name (c :: t) with
      | some p =>
          cases inner with
          | nil => simp [closes_nil_iff, hc, Prod.ext_iff]
          | cons d inner => simp [closes_cons_iff, hc]
      | none =>
          cases ho : Opener.at? (c :: t) with
          | some o =>
              cases inner with
              | nil => simp [closes_nil_iff, hc]
              | cons d inner => simp [closes_cons_iff, ho]
          | none =>
              simp only [Option.isSome_none, Bool.false_eq_true, if_false]
              cases inner with
              | nil =>
                  rw [closes_nil_iff, hc]
                  split
                  · simp
                  · next hn => simpa using hn [] closing rest
              | cons d inner =>
                  rw [closes_cons_iff, ← ih]
                  cases he : Ending.of k t with
                  | closed inner' closing' rest' =>
                      simp only [hc, ho, Ending.closed.injEq, List.cons.injEq, and_assoc, true_and]
                  | interrupted => simp
                  | unfinished => simp

end Ending

/-- The positions of a finished block of a kind in a text. -/
structure Site where
  kind : BlockKind
  start : Nat
  tagEnd : Nat
  close : Nat
  stop : Nat
  deriving Repr, DecidableEq

/-- `n` is the first position from `m` on of which `P` holds. -/
def IsFirst (P : Nat → Prop) (m n : Nat) : Prop :=
  m ≤ n ∧ P n ∧ ∀ j, m ≤ j → j < n → ¬ P j

namespace Site

/-- An opener starts at `start`; the first closing angle bracket behind its name is at
`tagEnd`, without an opening one in between; the first closing tag of the name behind it
is at `close` and ends at `stop`; and no opener starts in between. -/
def StandsIn (t : Text) (s : Site) : Prop :=
  ∃ o : Opener, Opener.at? (t.drop s.start) = some o ∧ o.kind = s.kind
    ∧ IsFirst (fun j => t[j]? = some '>') (s.start + 1 + o.spelling.length) s.tagEnd
    ∧ (∀ j, s.start + 1 + o.spelling.length ≤ j → j < s.tagEnd → t[j]? ≠ some '<')
    ∧ IsFirst (fun j => (TagName.closing? s.kind.name (t.drop j)).isSome) (s.tagEnd + 1) s.close
    ∧ (∀ j, s.tagEnd < j → j < s.close → Opener.at? (t.drop j) = none)
    ∧ ∃ closing rest, TagName.closing? s.kind.name (t.drop s.close) = some (closing, rest)
        ∧ s.stop = s.close + closing.length

/-- The block at a site of a text. -/
def block (t : Text) (s : Site) : Block where
  kind := s.kind
  opening := t.extract s.start (s.tagEnd + 1)
  inner := t.extract (s.tagEnd + 1) s.close
  closing := t.extract s.close s.stop

/-- The site `d` positions further on. -/
def shift (d : Nat) (s : Site) : Site :=
  ⟨s.kind, d + s.start, d + s.tagEnd, d + s.close, d + s.stop⟩

/-! ### Positions and parts -/

/-- A part of a text is cut off at the first position of a character. -/
theorem isFirst_iff_cutAt? {c : Char} {t : Text} {n m : Nat} :
  IsFirst (fun j => t[j]? = some c) n m
    ↔ ∃ before after, Text.cutAt? c (t.drop n) = some (before, after)
        ∧ m = n + before.length
  := by
  simp only [Text.cutAt?_eq_some_iff]
  constructor
  · rintro ⟨hle, hm, hfirst⟩
    obtain ⟨hlt, hget⟩ := List.getElem?_eq_some_iff.mp hm
    use (t.drop n).take (m - n), t.drop (m + 1)
    have hlen : ((t.drop n).take (m - n)).length = m - n := by
      simp only [List.length_take, List.length_drop]
      omega
    refine ⟨⟨?_, ?_⟩, by omega⟩
    · have hd : (t.drop n).drop (m - n) = c :: t.drop (m + 1) := by
        rw [List.drop_drop, Nat.add_sub_cancel' hle, List.drop_eq_getElem_cons hlt, hget]
      rw [← hd, List.take_append_drop]
    · intro hc
      obtain ⟨j, hj, hjc⟩ := List.mem_iff_getElem.mp hc
      rw [hlen] at hj
      apply hfirst (n + j) (by omega) (by omega)
      rw [← hjc, List.getElem_take, List.getElem_drop]
      apply List.getElem?_eq_getElem
  · rintro ⟨before, after, ⟨hd, hc⟩, rfl⟩
    have hget (j : Nat) : t[n + j]? = (before ++ c :: after)[j]? := by
      rw [← hd, List.getElem?_drop]
    refine ⟨by omega, by simp [hget], ?_⟩
    intro j hj hlt hjc
    obtain ⟨i, rfl⟩ := Nat.exists_eq_add_of_le hj
    rw [hget, List.getElem?_append_left (by omega)] at hjc
    apply hc (List.mem_of_getElem? hjc)

/-- A part of a text is without a character exactly when no position in it holds it. -/
theorem notMem_iff {c : Char} {t part rest : Text} {n : Nat} (h : t.drop n = part ++ rest) :
  c ∉ part ↔ ∀ j, n ≤ j → j < n + part.length → t[j]? ≠ some c
  := by
  have hget (i : Nat) (hi : i < part.length) : t[n + i]? = part[i]? := by
    rw [← List.getElem?_drop, h, List.getElem?_append_left hi]
  constructor
  · intro hc j hj hlt hjc
    obtain ⟨i, rfl⟩ := Nat.exists_eq_add_of_le hj
    rw [hget i (by omega)] at hjc
    apply hc (List.mem_of_getElem? hjc)
  · intro hn hc
    obtain ⟨i, hi, hic⟩ := List.mem_iff_getElem.mp hc
    apply hn (n + i) (by omega) (by omega)
    rw [hget i hi, List.getElem?_eq_getElem hi, hic]

/-- A text goes on to a closing tag exactly when that is at the first position of one, and no
opener comes before. -/
theorem isFirst_iff_ending {k : BlockKind} {t closing rest : Text} {m c : Nat} :
  IsFirst (fun j => (TagName.closing? k.name (t.drop j)).isSome) m c
      ∧ (∀ j, m ≤ j → j < c → Opener.at? (t.drop j) = none)
      ∧ TagName.closing? k.name (t.drop c) = some (closing, rest)
    ↔ ∃ inner, Ending.of k (t.drop m) = .closed inner closing rest ∧ c = m + inner.length
  := by
  simp only [Ending.of_eq_closed_iff]
  constructor
  · rintro ⟨⟨hle, -, hfirst⟩, hno, hcl⟩
    obtain ⟨i, rfl⟩ := Nat.exists_eq_add_of_le hle
    obtain ⟨s, b, -, -, -, hd⟩ := TagName.closing?_eq_some_iff.mp hcl
    have hlt : m + i < t.length := by
      by_contra hge
      rw [List.drop_of_length_le (by omega)] at hcl
      simp [TagName.closing?] at hcl
    have hlen : ((t.drop m).take i).length = i := by
      simp only [List.length_take, List.length_drop]
      omega
    use (t.drop m).take i
    refine ⟨⟨?_, hd ▸ hcl, ?_⟩, by rw [hlen]⟩
    · rw [← hd, ← List.drop_drop, List.take_append_drop]
    · intro j hj
      rw [hlen] at hj
      rw [List.drop_drop]
      constructor
      · simpa using hfirst (m + j) (by omega) (by omega)
      · apply hno (m + j) (by omega) (by omega)
  · rintro ⟨inner, h, rfl⟩
    have hc : TagName.closing? k.name (t.drop (m + inner.length)) = some (closing, rest) := by
      rw [← List.drop_drop, h.text, List.drop_left, h.closing]
    refine ⟨⟨by omega, by simp [hc], ?_⟩, ?_, hc⟩
    · intro j hj hlt
      obtain ⟨i, rfl⟩ := Nat.exists_eq_add_of_le hj
      simp [← List.drop_drop, (h.first i (by omega)).1]
    · intro j hj hlt
      obtain ⟨i, rfl⟩ := Nat.exists_eq_add_of_le hj
      rw [← List.drop_drop, (h.first i (by omega)).2]

/-- The site of a block whose parts are given, from its start on. -/
def ofParts (start : Nat) (o : Opener) (attributes inner closing : Text) : Site where
  kind := o.kind
  start := start
  tagEnd := start + 1 + o.spelling.length + attributes.length
  close := start + 1 + o.spelling.length + attributes.length + 1 + inner.length
  stop := start + 1 + o.spelling.length + attributes.length + 1 + inner.length + closing.length

/-- What stands behind the name of an opener. -/
theorem drop_of_at? {t : Text} {n : Nat} {o : Opener} (h : Opener.at? (t.drop n) = some o) :
  t.drop (n + 1 + o.spelling.length) = o.rest
  := by
  obtain ⟨he, -, -⟩ := Opener.at?_eq_some_iff.mp h
  rw [← List.drop_drop, ← List.drop_drop, he]
  simp

/-- What stands behind a cut. -/
theorem drop_of_cutAt? {c : Char} {t before after : Text} {n : Nat}
    (h : Text.cutAt? c (t.drop n) = some (before, after)) :
  t.drop (n + before.length + 1) = after
  := by
  obtain ⟨he, -⟩ := Text.cutAt?_eq_some_iff.mp h
  rw [← List.drop_drop, ← List.drop_drop, he]
  simp

/-- A site is described by the parts that the scanner reads there. -/
theorem standsIn_iff {t : Text} {s : Site} :
  s.StandsIn t
    ↔ ∃ o attributes body inner closing rest, Opener.at? (t.drop s.start) = some o
        ∧ Text.cutAt? '>' o.rest = some (attributes, body) ∧ '<' ∉ attributes
        ∧ Ending.of o.kind body = .closed inner closing rest
        ∧ s = ofParts s.start o attributes inner closing
  := by
  constructor
  · rintro ⟨o, ho, hk, hgt, hlt, hfirst, hno, closing, rest, hcl, hstop⟩
    obtain ⟨attributes, body, hcut, htag⟩ := isFirst_iff_cutAt?.mp hgt
    have hd := (Text.cutAt?_eq_some_iff.mp hcut).1
    have hbody := drop_of_cutAt? hcut
    obtain ⟨inner, hend, hclose⟩ := isFirst_iff_ending.mp ⟨hfirst, hno, hcl⟩
    rw [htag, hbody] at hend
    rw [drop_of_at? ho] at hcut
    rw [htag] at hlt
    refine ⟨o, attributes, body, inner, closing, rest, ho, hcut, (notMem_iff hd).mpr hlt,
      hk ▸ hend, ?_⟩
    obtain ⟨kind, start, tagEnd, close, stop⟩ := s
    simp only at hk htag hclose hstop
    rw [hstop, hclose, htag, ← hk]
    rfl
  · rintro ⟨o, attributes, body, inner, closing, rest, ho, hcut, hlt, hend, hs⟩
    generalize s.start = n at ho hs
    subst hs
    rw [← drop_of_at? ho] at hcut
    have hd := (Text.cutAt?_eq_some_iff.mp hcut).1
    have hbody := drop_of_cutAt? hcut
    obtain ⟨hfirst, hno, hcl⟩ := isFirst_iff_ending.mpr ⟨inner, hbody ▸ hend, rfl⟩
    exact ⟨o, ho, rfl, isFirst_iff_cutAt?.mpr ⟨attributes, body, hcut, rfl⟩,
      (notMem_iff hd).mp hlt, hfirst, hno, closing, rest, hcl, rfl⟩

/-! ### Moving sites -/

/-- A site of a text is a site of any longer one, moved by what stands before. -/
theorem StandsIn.append {t : Text} {s : Site} (h : s.StandsIn t) (u v : Text) :
  (s.shift u.length).StandsIn (u ++ (t ++ v))
  := by
  obtain ⟨o, attributes, body, inner, closing, rest, ho, hcut, hlt, hend, hs⟩ := standsIn_iff.mp h
  have hdrop : (u ++ (t ++ v)).drop (s.shift u.length).start = t.drop s.start ++ v := by
    rw [shift, List.drop_length_add_append, List.drop_append_of_le_length]
    by_contra hgt
    rw [List.drop_of_length_le (by omega)] at ho
    simp [Opener.at?] at ho
  apply standsIn_iff.mpr
  refine ⟨o.extend v, attributes, body ++ v, inner, closing, rest ++ v, ?_,
    Text.cutAt?_append hcut v, hlt, ?_, ?_⟩
  · rw [hdrop]
    apply Opener.at?_append ho
  · have hf := Ending.of_append (k := o.kind) (t := body) (by simp [hend]) v
    rw [hend] at hf
    apply hf
  · rw [hs]
    simp only [ofParts, shift, Opener.extend, mk.injEq, true_and]
    omega

/-- A site that starts behind the front part of a text is a site of the other part. -/
theorem StandsIn.of_append {u t : Text} {s : Site} (h : s.StandsIn (u ++ t))
    (hle : u.length ≤ s.start) :
  ∃ s' : Site, s'.StandsIn t ∧ s = s'.shift u.length
  := by
  obtain ⟨o, attributes, body, inner, closing, rest, ho, hcut, hlt, hend, hs⟩ := standsIn_iff.mp h
  obtain ⟨i, hi⟩ := Nat.exists_eq_add_of_le hle
  use ofParts i o attributes inner closing
  constructor
  · apply standsIn_iff.mpr
    refine ⟨o, attributes, body, inner, closing, rest, ?_, hcut, hlt, hend, rfl⟩
    rw [hi, List.drop_length_add_append] at ho
    apply ho
  · rw [hs, hi]
    simp only [ofParts, shift, mk.injEq, true_and]
    omega

/-- A site starts at an opener. -/
theorem StandsIn.at?_ne_none {t : Text} {s : Site} (h : s.StandsIn t) :
  Opener.at? (t.drop s.start) ≠ none
  := by
  obtain ⟨o, ho, -⟩ := h
  simp [ho]

/-- A site does not start in a front part without an opener. -/
theorem StandsIn.le_start {u t : Text} {s : Site} (h : s.StandsIn (u ++ t))
    (hu : ∀ j < u.length, Opener.at? ((u ++ t).drop j) = none) :
  u.length ≤ s.start
  := by
  by_contra hlt
  apply h.at?_ne_none (hu _ (by omega))

end Site

/-! ### Where openers are -/

namespace Opener

/-- No opener stands where there is no opening angle bracket. -/
theorem at?_drop_of_notMem {u : Text} (hu : '<' ∉ u) (t : Text) :
  ∀ j < u.length, at? ((u ++ t).drop j) = none
  := by
  intro j hj
  apply Option.eq_none_iff_forall_ne_some.mpr
  intro o ho
  obtain ⟨he, -, -⟩ := at?_eq_some_iff.mp ho
  apply hu
  rw [List.drop_append_of_le_length hj.le, List.drop_eq_getElem_cons hj] at he
  rw [← (List.cons.inj he).1]
  apply List.getElem_mem

/-- No opener stands anywhere in a text in which none is found. -/
theorem at?_drop_of_find? {t : Text} (h : find? t = none) (j : Nat) :
  at? (t.drop j) = none
  := by
  induction t generalizing j with
  | nil => simp [at?]
  | cons c t ih =>
      simp only [find?, Option.or_eq_none_iff] at h
      cases j with
      | zero => apply h.1
      | succ j => apply ih h.2

/-- The first opener of a text, and what stands before it. -/
theorem exists_of_find? {t : Text} {o : Opener} (h : find? t = some o) :
  ∃ v, t = v ++ '<' :: (o.spelling ++ o.rest) ∧ at? (t.drop v.length) = some o
    ∧ ∀ j < v.length, at? (t.drop j) = none
  := by
  induction t with
  | nil => simp [find?] at h
  | cons c t ih =>
      simp only [find?] at h
      cases ha : at? (c :: t) with
      | some o' =>
          rw [ha, Option.some_or] at h
          obtain rfl := Option.some.inj h
          use []
          refine ⟨(at?_eq_some_iff.mp ha).1, ha, ?_⟩
          intro j hj
          simp at hj
      | none =>
          rw [ha, Option.none_or] at h
          obtain ⟨v, hv, ho, hno⟩ := ih h
          use c :: v
          refine ⟨by rw [hv]; rfl, ho, ?_⟩
          rintro (_ | j) hj
          · apply ha
          · apply hno j (by simpa using hj)

end Opener

namespace Ending

/-- No opener stands in a text whose ending is not there. -/
theorem at?_drop_of_unfinished {k : BlockKind} {t : Text} (h : Ending.of k t = .unfinished)
    (j : Nat) :
  Opener.at? (t.drop j) = none
  := by
  induction t generalizing j with
  | nil => simp [Opener.at?]
  | cons c t ih =>
      simp only [Ending.of] at h
      split at h
      · simp at h
      · split_ifs at h with ho
        cases j with
        | zero => simpa using ho
        | succ j =>
            apply ih
            cases he : Ending.of k t <;> simp_all

/-- No opener stands inside a block or its closing tag. -/
theorem at?_drop_of_closed {k : BlockKind} {t inner closing rest : Text}
    (h : Ending.of k t = .closed inner closing rest) :
  ∀ j < (inner ++ closing).length, Opener.at? ((inner ++ closing ++ rest).drop j) = none
  := by
  obtain ⟨rfl, hcl, hnone⟩ := of_eq_closed_iff.mp h
  intro j hj
  rw [List.append_assoc]
  by_cases hlt : j < inner.length
  · apply (hnone j hlt).2
  · obtain ⟨i, rfl⟩ := Nat.exists_eq_add_of_le (Nat.le_of_not_lt hlt)
    rw [List.drop_length_add_append]
    cases i with
    | zero =>
        -- the closing tag itself is no opener
        apply Option.eq_none_iff_forall_ne_some.mpr
        intro o ho
        rw [List.drop_zero] at ho
        rw [Opener.closing?_eq_none ho] at hcl
        simp at hcl
    | succ i =>
        have hn := TagName.notMem_tail_of_closing? (k.notMem_name (Or.inl rfl)) hcl
        cases closing with
        | nil =>
            simp only [List.append_nil] at hj
            omega
        | cons c closing =>
            apply Opener.at?_drop_of_notMem hn rest i
            simp only [List.length_append, List.length_cons, List.tail_cons] at hj ⊢
            omega

end Ending

end BranchingStory
