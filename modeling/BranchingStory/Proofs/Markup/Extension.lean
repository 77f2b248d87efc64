import BranchingStory.Markup.Block
import Mathlib.Data.List.Forall2
import Mathlib.Data.List.TakeWhile
import Mathlib.Tactic.Use

/-!
# Reading a text that grows

What the scanner has read at the front of a text stays read when more text arrives at the
end: names, ends of tags, closing tags, openers and endings.  A closing tag or an opener
that appears only with the text that arrives begins in a part without a later angle
bracket, so nothing that was passed over turns into one.
-/

namespace BranchingStory

/-! ### Names of tags -/

namespace TagName

/-- The letter that a character spells in a name. -/
def letter (c : Char) : Char :=
  if c = '\u017f' then 's' else if c = '\u0131' then 'i' else plainForm c

/-- A character spells a letter other than a long s and a dotless i exactly when that is
its letter. -/
theorem spells_iff {a c : Char} (hs : a ≠ '\u017f') (hi : a ≠ '\u0131') :
  spells a c = true ↔ letter c = a
  := by
  by_cases h₁ : c = '\u017f'
  · subst h₁
    have hp : plainForm '\u017f' = '\u017f' := by decide
    simp only [spells, letter, hp, if_true, Bool.or_eq_true, Bool.and_eq_true, beq_iff_eq]
    constructor
    · rintro ((h | ⟨h, -⟩) | ⟨-, h⟩)
      · apply absurd h.symm hs
      · apply h.symm
      · simp at h
    · rintro rfl
      simp
  · by_cases h₂ : c = '\u0131'
    · subst h₂
      have hp : plainForm '\u0131' = '\u0131' := by decide
      simp only [spells, letter, hp, if_neg h₁, if_true, Bool.or_eq_true, Bool.and_eq_true,
        beq_iff_eq]
      constructor
      · rintro ((h | ⟨-, h⟩) | ⟨h, -⟩)
        · apply absurd h.symm hi
        · simp at h
        · apply h.symm
      · rintro rfl
        simp
    · simp [spells, letter, h₁, h₂]

/-- `spelling` spells `name` character by character. -/
def Spelled (name spelling : Text) : Prop :=
  List.Forall₂ (fun a c => spells a c = true) name spelling

instance (name spelling : Text) : Decidable (Spelled name spelling) :=
  inferInstanceAs (Decidable (List.Forall₂ (fun a c => spells a c = true) name spelling))

/-- A name is taken from a text exactly when the text begins with a spelling of it. -/
theorem take?_eq_some_iff {name t spelling rest : Text} :
  take? name t = some (spelling, rest) ↔ t = spelling ++ rest ∧ Spelled name spelling
  := by
  induction name generalizing t spelling with
  | nil =>
      simp only [take?, Option.some.injEq, Prod.mk.injEq, Spelled, List.forall₂_nil_left_iff]
      constructor
      · rintro ⟨rfl, rfl⟩
        simp
      · rintro ⟨rfl, rfl⟩
        simp
  | cons a name ih =>
      cases t with
      | nil =>
          simp only [take?, reduceCtorEq, false_iff, not_and]
          intro h
          rw [(List.append_eq_nil_iff.mp h.symm).1]
          rintro ⟨⟩
      | cons c t =>
          by_cases hc : spells a c = true
          · simp only [take?, hc, if_true, Option.map_eq_some_iff, Prod.exists, Prod.mk.injEq]
            constructor
            · rintro ⟨s, r, hs, rfl, rfl⟩
              obtain ⟨rfl, hf⟩ := ih.mp hs
              exact ⟨rfl, List.Forall₂.cons hc hf⟩
            · rintro ⟨ht, hf⟩
              cases hf with
              | cons _ hf =>
                  obtain ⟨rfl, rfl⟩ := List.cons.inj ht
                  exact ⟨_, _, ih.mpr ⟨rfl, hf⟩, rfl, rfl⟩
          · simp only [take?, hc, Bool.false_eq_true, if_false, reduceCtorEq, false_iff, not_and]
            intro ht hf
            cases hf with
            | cons hc' hf => exact hc ((List.cons.inj ht).1 ▸ hc')

/-- A spelling is as long as the name. -/
theorem Spelled.length_eq {name spelling : Text} (h : Spelled name spelling) :
  spelling.length = name.length
  := (List.Forall₂.length_eq h).symm

/-- The letters of a spelling are the name. -/
theorem Spelled.map_letter {name spelling : Text} (h : Spelled name spelling)
    (hn : ∀ a ∈ name, a ≠ '\u017f' ∧ a ≠ '\u0131') :
  spelling.map letter = name
  := by
  induction h with
  | nil => rfl
  | @cons a c name spelling hc _ ih =>
      obtain ⟨hs, hi⟩ := hn a List.mem_cons_self
      rw [List.map_cons, (spells_iff hs hi).mp hc, ih fun b hb => hn b (List.mem_cons_of_mem _ hb)]

/-- An angle bracket is spelled by itself only. -/
theorem Spelled.notMem {name spelling : Text} (h : Spelled name spelling) {b : Char}
    (hb : b = '<' ∨ b = '>') (hn : b ∉ name) :
  b ∉ spelling
  := by
  induction h with
  | nil => simp
  | @cons a c name spelling hc _ ih =>
      have hne : c ≠ b := by
        rintro rfl
        apply hn
        have ha : c = a := by
          obtain rfl | rfl := hb
          · simpa [spells, plainForm] using hc
          · simpa [spells, plainForm] using hc
        simp [ha]
      simp only [List.mem_cons, not_or] at hn ⊢
      exact ⟨hne.symm, ih hn.2⟩

/-- The end of a tag is read from a text exactly when the text begins with blanks and a
closing angle bracket. -/
theorem tagEnd?_eq_some_iff {t closing rest : Text} :
  tagEnd? t = some (closing, rest)
    ↔ ∃ blanks : Text, (∀ c ∈ blanks, isBlank c = true) ∧ closing = blanks ++ ['>']
        ∧ t = blanks ++ '>' :: rest
  := by
  have hgt : isBlank '>' = false := by decide
  constructor
  · intro h
    unfold tagEnd? at h
    split at h
    · next rest' hd =>
      obtain ⟨rfl, rfl⟩ := Prod.mk.inj (Option.some.inj h)
      use t.takeWhile isBlank
      refine ⟨fun c hc => List.mem_takeWhile_imp hc, rfl, ?_⟩
      rw [← hd, List.takeWhile_append_dropWhile]
    · simp at h
  · rintro ⟨blanks, hb, rfl, rfl⟩
    have hd : (blanks ++ '>' :: rest).dropWhile isBlank = '>' :: rest := by
      rw [List.dropWhile_append_of_pos hb]
      simp [hgt]
    have ht : (blanks ++ '>' :: rest).takeWhile isBlank = blanks := by
      rw [List.takeWhile_append_of_pos hb]
      simp [hgt]
    simp [tagEnd?, hd, ht]

/-- A closing tag is read from a text exactly when the text begins with one. -/
theorem closing?_eq_some_iff {name t closing rest : Text} :
  closing? name t = some (closing, rest)
    ↔ ∃ spelling blanks : Text, Spelled name spelling ∧ (∀ c ∈ blanks, isBlank c = true)
        ∧ closing = '<' :: '/' :: (spelling ++ (blanks ++ ['>'])) ∧ t = closing ++ rest
  := by
  constructor
  · intro h
    unfold closing? at h
    split at h
    · split at h
      · simp at h
      · next hp =>
        obtain ⟨⟨e, r⟩, he, hq⟩ := Option.map_eq_some_iff.mp h
        obtain ⟨rfl, rfl⟩ := Prod.mk.inj hq
        obtain ⟨rfl, hs⟩ := take?_eq_some_iff.mp hp
        obtain ⟨blanks, hb, rfl, rfl⟩ := tagEnd?_eq_some_iff.mp he
        exact ⟨_, blanks, hs, hb, rfl, by simp⟩
    · simp at h
  · rintro ⟨spelling, blanks, hs, hb, rfl, rfl⟩
    have ht : take? name (spelling ++ (blanks ++ '>' :: rest))
        = some (spelling, blanks ++ '>' :: rest) :=
      take?_eq_some_iff.mpr ⟨rfl, hs⟩
    have he : tagEnd? (blanks ++ '>' :: rest) = some (blanks ++ ['>'], rest) :=
      tagEnd?_eq_some_iff.mpr ⟨blanks, hb, rfl, rfl⟩
    simp [closing?, ht, he]

/-- A closing tag that was read stays read when text arrives. -/
theorem closing?_append {name t closing rest : Text}
    (h : closing? name t = some (closing, rest)) (u : Text) :
  closing? name (t ++ u) = some (closing, rest ++ u)
  := by
  obtain ⟨spelling, blanks, hs, hb, hc, rfl⟩ := closing?_eq_some_iff.mp h
  apply closing?_eq_some_iff.mpr
  exact ⟨spelling, blanks, hs, hb, hc, by simp⟩

/-- A closing tag has no angle bracket behind its first one. -/
theorem notMem_tail_of_closing? {name t closing rest : Text} (hn : '<' ∉ name)
    (h : closing? name t = some (closing, rest)) :
  '<' ∉ closing.tail
  := by
  obtain ⟨spelling, blanks, hs, hb, rfl, -⟩ := closing?_eq_some_iff.mp h
  simp only [List.tail_cons, List.mem_cons, List.mem_append, not_or]
  refine ⟨by decide, hs.notMem (Or.inl rfl) hn, ?_, by decide, by simp⟩
  intro hm
  simpa using (hb _ hm).symm.trans (by decide : isBlank '<' = false)

/-- A closing tag that is read only with the text that arrives has no angle bracket behind
its first one in the text that was there. -/
theorem notMem_of_closing?_append {name t u closing rest : Text} (hn : '<' ∉ name) {c : Char}
    (h : closing? name (c :: t) = none)
    (hu : closing? name (c :: t ++ u) = some (closing, rest)) :
  '<' ∉ t
  := by
  obtain ⟨spelling, blanks, hs, hb, rfl, ht⟩ := closing?_eq_some_iff.mp hu
  obtain ⟨a', h₁, h₂⟩ | ⟨c', h₁, h₂⟩ := List.append_eq_append_iff.mp ht
  · -- all that was there belongs to the closing tag
    have hlt := notMem_tail_of_closing? hn hu
    rw [h₁] at hlt
    intro hm
    apply hlt (List.mem_append_left _ hm)
  · rw [h₁, closing?_eq_some_iff.mpr ⟨spelling, blanks, hs, hb, rfl, rfl⟩] at h
    simp at h

end TagName

/-! ### Openers -/

namespace BlockKind

@[simp]
theorem name_narrator :
  name narrator = ['n', 'a', 'r', 'r', 'a', 't', 'o', 'r']
  := rfl

@[simp]
theorem name_character :
  name character = ['c', 'h', 'a', 'r', 'a', 'c', 't', 'e', 'r']
  := rfl

@[simp]
theorem name_segment :
  name segment = ['s', 'e', 'g', 'm', 'e', 'n', 't']
  := rfl

@[simp]
theorem name_choices :
  name choices = ['c', 'h', 'o', 'i', 'c', 'e', 's']
  := rfl

/-- No name of a kind has an angle bracket. -/
theorem notMem_name (k : BlockKind) {b : Char} (hb : b = '<' ∨ b = '>') :
  b ∉ k.name
  := by
  obtain rfl | rfl := hb
  · cases k <;> decide
  · cases k <;> decide

/-- No name of a kind has a long s or a dotless i. -/
theorem letters_name (k : BlockKind) :
  ∀ a ∈ k.name, a ≠ '\u017f' ∧ a ≠ '\u0131'
  := by
  have h : (k.name.all fun a => a ≠ '\u017f' ∧ a ≠ '\u0131') = true := by
    cases k <;> decide
  intro a ha
  apply of_decide_eq_true (List.all_eq_true.mp h a ha)

/-- A text begins with spellings of the names of at most one kind. -/
theorem eq_of_spelled {k k' : BlockKind} {s s' r r' : Text}
    (h : TagName.Spelled k.name s) (h' : TagName.Spelled k'.name s') (he : s ++ r = s' ++ r') :
  k = k'
  := by
  have hl := congrArg (List.map TagName.letter) he
  rw [List.map_append, List.map_append, h.map_letter (letters_name k),
    h'.map_letter (letters_name k')] at hl
  cases k <;> cases k' <;> first | rfl | simp at hl

end BlockKind

namespace Opener

/-- The opener of a kind is read exactly when a spelling of its name stands there and the
name ends behind it. -/
theorem ofKind?_eq_some_iff {t : Text} {k : BlockKind} {o : Opener} :
  ofKind? t k = some o
    ↔ o.kind = k ∧ t = o.spelling ++ o.rest ∧ TagName.Spelled k.name o.spelling
        ∧ nameEndsAt o.rest = true
  := by
  obtain ⟨kind, spelling, rest⟩ := o
  constructor
  · intro h
    unfold ofKind? at h
    split at h
    · simp at h
    · next hp =>
      split at h
      · next hn =>
        obtain ⟨rfl, rfl, rfl⟩ := Opener.mk.inj (Option.some.inj h)
        obtain ⟨ht, hs⟩ := TagName.take?_eq_some_iff.mp hp
        exact ⟨rfl, ht, hs, hn⟩
      · simp at h
  · rintro ⟨rfl, rfl, hs, hn⟩
    have hp : TagName.take? kind.name (spelling ++ rest) = some (spelling, rest) :=
      TagName.take?_eq_some_iff.mpr ⟨rfl, hs⟩
    simp only [ofKind?, hp]
    rw [if_pos hn]

/-- An opener is read exactly when the text begins with an angle bracket and a spelling
of the name of its kind, and the name ends behind it. -/
theorem at?_eq_some_iff {t : Text} {o : Opener} :
  at? t = some o
    ↔ t = '<' :: (o.spelling ++ o.rest) ∧ TagName.Spelled o.kind.name o.spelling
        ∧ nameEndsAt o.rest = true
  := by
  constructor
  · intro h
    unfold at? at h
    split at h
    · obtain ⟨k, -, hk⟩ := List.exists_of_findSome?_eq_some h
      obtain ⟨rfl, rfl, hs, hn⟩ := ofKind?_eq_some_iff.mp hk
      exact ⟨rfl, hs, hn⟩
    · simp at h
  · rintro ⟨rfl, hs, hn⟩
    have hk : ofKind? (o.spelling ++ o.rest) o.kind = some o :=
      ofKind?_eq_some_iff.mpr ⟨rfl, rfl, hs, hn⟩
    have hm : o.kind ∈ BlockKind.all := by
      cases o.kind <;> simp [BlockKind.all]
    simp only [at?]
    cases hf : BlockKind.all.findSome? (ofKind? (o.spelling ++ o.rest)) with
    | none =>
        rw [List.findSome?_eq_none_iff.mp hf _ hm] at hk
        simp at hk
    | some o' =>
        -- two openers at one place are of the same kind, so they are the same
        obtain ⟨k, -, hk'⟩ := List.exists_of_findSome?_eq_some hf
        obtain ⟨rfl, he, hs', -⟩ := ofKind?_eq_some_iff.mp hk'
        rw [BlockKind.eq_of_spelled hs' hs he.symm, hk] at hk'
        rw [hk']

/-- The name of an opener ends where it ended when text arrives. -/
theorem nameEndsAt_append {t : Text} (h : nameEndsAt t = true) (u : Text) :
  nameEndsAt (t ++ u) = true
  := by
  cases t with
  | nil => simp [nameEndsAt] at h
  | cons c t => simpa [nameEndsAt] using h

/-- The opener with more text behind its name. -/
def extend (o : Opener) (u : Text) : Opener :=
  { o with rest := o.rest ++ u }

/-- An opener that was read stays read when text arrives. -/
theorem at?_append {t : Text} {o : Opener} (h : at? t = some o) (u : Text) :
  at? (t ++ u) = some (o.extend u)
  := by
  obtain ⟨rfl, hs, hn⟩ := at?_eq_some_iff.mp h
  apply at?_eq_some_iff.mpr
  exact ⟨by simp [extend], hs, nameEndsAt_append hn u⟩

/-- An opener that is read only with the text that arrives has no angle bracket behind its
first one in the text that was there. -/
theorem notMem_of_at?_append {t u : Text} {o : Opener} {c b : Char} (hb : b = '<' ∨ b = '>')
    (h : at? (c :: t) = none) (hu : at? (c :: t ++ u) = some o) :
  b ∉ t
  := by
  obtain ⟨ht, hs, hn⟩ := at?_eq_some_iff.mp hu
  obtain ⟨hc, ht'⟩ := List.cons.inj ht
  obtain ⟨a', h₁, h₂⟩ | ⟨c', h₁, h₂⟩ := List.append_eq_append_iff.mp ht'
  · -- all that was there belongs to the name
    intro hm
    apply hs.notMem hb (BlockKind.notMem_name _ hb)
    rw [h₁]
    apply List.mem_append_left _ hm
  · cases c' with
    | nil =>
        rw [List.append_nil] at h₁
        rw [h₁]
        apply hs.notMem hb (BlockKind.notMem_name _ hb)
    | cons d c' =>
        rw [h₂] at hn
        have he : at? ('<' :: t) = some ⟨o.kind, o.spelling, d :: c'⟩ :=
          at?_eq_some_iff.mpr ⟨by rw [h₁], hs, hn⟩
        rw [hc, he] at h
        simp at h

/-- No closing tag stands where an opener stands. -/
theorem closing?_eq_none {t : Text} {o : Opener} (h : at? t = some o) (name : Text) :
  TagName.closing? name t = none
  := by
  obtain ⟨rfl, hs, -⟩ := at?_eq_some_iff.mp h
  have hl := hs.map_letter (BlockKind.letters_name _)
  apply Option.eq_none_iff_forall_ne_some.mpr
  rintro ⟨closing, rest⟩ hc
  obtain ⟨s, b, -, -, rfl, ht⟩ := TagName.closing?_eq_some_iff.mp hc
  have hslash : TagName.letter '/' = '/' := by decide
  cases hsp : o.spelling with
  | nil => cases hk : o.kind <;> simp [hsp, hk] at hl
  | cons d spelling =>
      rw [hsp] at ht hl
      obtain ⟨rfl, -⟩ := List.cons.inj (List.cons.inj ht).2
      cases hk : o.kind <;> simp [hk, hslash] at hl

/-- The first opener of a text has an angle bracket. -/
theorem mem_of_find? {t : Text} {o : Opener} (h : find? t = some o) :
  '<' ∈ t
  := by
  induction t with
  | nil => simp [find?] at h
  | cons c t ih =>
      simp only [find?] at h
      cases ha : at? (c :: t) with
      | some o' =>
          obtain ⟨he, -⟩ := at?_eq_some_iff.mp ha
          simp [(List.cons.inj he).1]
      | none =>
          rw [ha, Option.none_or] at h
          apply List.mem_cons_of_mem _ (ih h)

/-- No opener stands where no opening angle bracket does. -/
theorem at?_of_ne {c : Char} (h : c ≠ '<') (t : Text) :
  at? (c :: t) = none
  := by
  unfold at?
  split
  · next he => exact absurd (List.cons.inj he).1 h
  · rfl

/-- The search for an opener passes over text without an opening angle bracket. -/
theorem find?_skip {u : Text} (h : '<' ∉ u) (t : Text) :
  find? (u ++ t) = find? t
  := by
  induction u with
  | nil => rfl
  | cons c u ih =>
      rw [List.mem_cons, not_or] at h
      rw [List.cons_append, find?, at?_of_ne (Ne.symm h.1), ih h.2, Option.none_or]

/-- The first opener stays the first one when text arrives. -/
theorem find?_append {t : Text} {o : Opener} (h : find? t = some o) (u : Text) :
  find? (t ++ u) = some (o.extend u)
  := by
  induction t with
  | nil => simp [find?] at h
  | cons c t ih =>
      simp only [find?] at h
      simp only [List.cons_append, find?]
      cases ha : at? (c :: t) with
      | some o' =>
          rw [ha, Option.some_or] at h
          rw [← List.cons_append, at?_append ha u, Option.some_or, Option.some.inj h]
      | none =>
          rw [ha, Option.none_or] at h
          have hn : at? (c :: t ++ u) = none := by
            apply Option.eq_none_iff_forall_ne_some.mpr
            intro o' ho
            apply notMem_of_at?_append (Or.inl rfl) ha ho (mem_of_find? h)
          rw [← List.cons_append, hn, Option.none_or, ih h]

end Opener

/-! ### Cuts and endings -/

/-- The first cut of a text stays the first one when text arrives. -/
theorem Text.cutAt?_append {c : Char} {t before after : Text}
    (h : Text.cutAt? c t = some (before, after)) (u : Text) :
  Text.cutAt? c (t ++ u) = some (before, after ++ u)
  := by
  obtain ⟨rfl, hn⟩ := Text.cutAt?_eq_some_iff.mp h
  apply Text.cutAt?_eq_some_iff.mpr
  exact ⟨by simp, hn⟩

namespace Ending

/-- The ending with more text behind it. -/
def extend (u : Text) : Ending → Ending
  | closed inner closing rest => closed inner closing (rest ++ u)
  | e => e

/-- An ending that was found needs an angle bracket. -/
theorem mem_of_ne_unfinished {k : BlockKind} {t : Text} (h : Ending.of k t ≠ unfinished) :
  '<' ∈ t
  := by
  induction t with
  | nil => simp [Ending.of] at h
  | cons c t ih =>
      simp only [Ending.of] at h
      split at h
      · next hc =>
        obtain ⟨s, b, -, -, rfl, ht⟩ := TagName.closing?_eq_some_iff.mp hc
        simp [(List.cons.inj ht).1]
      · split at h
        · next ho =>
          obtain ⟨o, ho⟩ := Option.isSome_iff_exists.mp ho
          simp [(List.cons.inj (Opener.at?_eq_some_iff.mp ho).1).1]
        · apply List.mem_cons_of_mem _ (ih _)
          intro he
          simp [he] at h

/-- An ending that was found stays the ending when text arrives. -/
theorem of_append {k : BlockKind} {t : Text} (h : Ending.of k t ≠ unfinished) (u : Text) :
  Ending.of k (t ++ u) = (Ending.of k t).extend u
  := by
  induction t with
  | nil => simp [Ending.of] at h
  | cons c t ih =>
      simp only [Ending.of] at h
      simp only [List.cons_append, Ending.of]
      cases hc : TagName.closing? k.name (c :: t) with
      | some p =>
          rw [← List.cons_append, TagName.closing?_append hc u]
          rfl
      | none =>
          simp only [hc] at h
          cases ho : Opener.at? (c :: t) with
          | some o =>
              have ho' := Opener.at?_append ho u
              rw [← List.cons_append, Opener.closing?_eq_none ho', ho']
              rfl
          | none =>
              simp only [ho, Option.isSome_none, Bool.false_eq_true, if_false] at h
              have hi : Ending.of k t ≠ unfinished := by
                intro he
                simp [he] at h
              have hm := mem_of_ne_unfinished hi
              have hc' : TagName.closing? k.name (c :: t ++ u) = none := by
                apply Option.eq_none_iff_forall_ne_some.mpr
                rintro ⟨x, y⟩ hu
                apply TagName.notMem_of_closing?_append (k.notMem_name (Or.inl rfl)) hc hu hm
              have ho' : Opener.at? (c :: t ++ u) = none := by
                apply Option.eq_none_iff_forall_ne_some.mpr
                intro o' hu
                apply Opener.notMem_of_at?_append (Or.inl rfl) ho hu hm
              rw [← List.cons_append, hc', ho', ih hi]
              cases Ending.of k t with
              | closed inner closing rest => rfl
              | interrupted => rfl
              | unfinished => rfl

end Ending

end BranchingStory
