import BranchingStory.Json.Excess
import BranchingStory.Proofs.Json.NumberText
import BranchingStory.Proofs.Json.StringText
import BranchingStory.Text.Newline

/-!
# JSON read back

A value that is written in a layout is read as the same value, as long as nothing in it is beyond
the limits, its binary64 numbers are written as texts that are read and its strings are kept:
`readWithin_write_eq`.  For a value without numbers whose strings are texts only its depth matters:
`readWithin_write`.
-/

namespace BranchingStory

/-- Newlines of a text without carriage returns are unified already. -/
theorem Text.unifyNewlines_of_notMem {t : Text} (h : '\r' ∉ t) :
  unifyNewlines t = t
  := by
  induction t with
  | nil => rfl
  | cons c t ih =>
      rw [List.mem_cons, not_or] at h
      have hc : c ≠ '\r' := Ne.symm h.1
      rw [unifyNewlines, ih h.2]
      · rintro rest rfl
        exact absurd rfl hc
      · apply hc

namespace Json

/-! ### Values without numbers -/

mutual

/-- Whether no number stands in a value. -/
def numberFree : Json → Bool
  | int _ => false
  | float _ => false
  | arr vs => numberFreeItems vs
  | obj ms => numberFreeMembers ms
  | _ => true

/-- Whether no number stands in the items of an array. -/
def numberFreeItems : List Json → Bool
  | [] => true
  | v :: vs => numberFree v && numberFreeItems vs

/-- Whether no number stands in the members of an object. -/
def numberFreeMembers : List (Str × Json) → Bool
  | [] => true
  | (_, v) :: ms => numberFree v && numberFreeMembers ms

end

/-- Items are without numbers when all of them are. -/
theorem numberFreeItems_iff {vs : List Json} :
  numberFreeItems vs = true ↔ ∀ v ∈ vs, numberFree v = true
  := by
  induction vs with
  | nil => simp [numberFreeItems]
  | cons v vs ih => simp [numberFreeItems, ih]

/-- Members are without numbers when all of their values are. -/
theorem numberFreeMembers_iff {ms : List (Str × Json)} :
  numberFreeMembers ms = true ↔ ∀ m ∈ ms, numberFree m.2 = true
  := by
  induction ms with
  | nil => simp [numberFreeMembers]
  | cons m ms ih => simp [numberFreeMembers, ih]

/-! ### Numbers -/

mutual

/-- The binary64 numbers in a value. -/
def floats : Json → List Binary64
  | float x => [x]
  | arr vs => floatsItems vs
  | obj ms => floatsMembers ms
  | _ => []

/-- The binary64 numbers in the items of an array. -/
def floatsItems : List Json → List Binary64
  | [] => []
  | v :: vs => floats v ++ floatsItems vs

/-- The binary64 numbers in the members of an object. -/
def floatsMembers : List (Str × Json) → List Binary64
  | [] => []
  | (_, v) :: ms => floats v ++ floatsMembers ms

end

mutual

/-- In a value without numbers only the depth may be beyond the limits. -/
theorem excess?_of_numberFree : (v : Json) → v.numberFree = true → (room : Nat) →
    v.depth < room →
  v.excess? room = none ∧ v.floats = []
  | null, _, room, _ => ⟨by cases room <;> rfl, rfl⟩
  | bool _, _, room, _ => ⟨by cases room <;> rfl, rfl⟩
  | int _, hv, _, _ => by simp [numberFree] at hv
  | float _, hv, _, _ => by simp [numberFree] at hv
  | str _, _, room, _ => ⟨by cases room <;> rfl, rfl⟩
  | arr [], _, room + 1, _ => ⟨rfl, rfl⟩
  | obj [], _, room + 1, _ => ⟨rfl, rfl⟩
  | arr (v :: vs), hv, room + 1, hd => by
      rw [excess?, floats]
      rw [depth] at hd
      exact excessItem?_of_numberFree (v :: vs) hv room (by omega)
  | obj (m :: ms), hv, room + 1, hd => by
      rw [excess?, floats]
      rw [depth] at hd
      exact excessMember?_of_numberFree (m :: ms) hv room (by omega)

/-- `excess?_of_numberFree` for the items of an array. -/
theorem excessItem?_of_numberFree : (vs : List Json) → numberFreeItems vs = true → (room : Nat) →
    depthItems vs < room →
  excessItem? room vs = none ∧ floatsItems vs = []
  | [], _, _, _ => ⟨rfl, rfl⟩
  | v :: vs, hv, room, hd => by
      rw [numberFreeItems, Bool.and_eq_true] at hv
      rw [depthItems] at hd
      obtain ⟨he, hf⟩ := excess?_of_numberFree v hv.1 room (by omega)
      obtain ⟨hes, hfs⟩ := excessItem?_of_numberFree vs hv.2 room (by omega)
      rw [excessItem?, floatsItems, he, hes, hf, hfs]
      exact ⟨rfl, rfl⟩

/-- `excess?_of_numberFree` for the members of an object. -/
theorem excessMember?_of_numberFree : (ms : List (Str × Json)) → numberFreeMembers ms = true →
    (room : Nat) → depthMembers ms < room →
  excessMember? room ms = none ∧ floatsMembers ms = []
  | [], _, _, _ => ⟨rfl, rfl⟩
  | (k, v) :: ms, hv, room, hd => by
      rw [numberFreeMembers, Bool.and_eq_true] at hv
      rw [depthMembers] at hd
      obtain ⟨he, hf⟩ := excess?_of_numberFree v hv.1 room (by omega)
      obtain ⟨hes, hfs⟩ := excessMember?_of_numberFree ms hv.2 room (by omega)
      rw [excessMember?, floatsMembers, he, hes, hf, hfs]
      exact ⟨rfl, rfl⟩

end

/-! ### Strings -/

/-- The strings in items are those in any of them. -/
theorem mem_strsOfItems {s : Str} {vs : List Json} :
  s ∈ strsOfItems vs ↔ ∃ v ∈ vs, s ∈ v.strs
  := by
  induction vs with
  | nil => simp [strsOfItems]
  | cons v vs ih => simp [strsOfItems, ih]

/-- The strings in members are their names and those in any of their values. -/
theorem mem_strsOfMembers {s : Str} {ms : List (Str × Json)} :
  s ∈ strsOfMembers ms ↔ ∃ m ∈ ms, s = m.1 ∨ s ∈ m.2.strs
  := by
  induction ms with
  | nil => simp [strsOfMembers]
  | cons m ms ih => simp [strsOfMembers, ih, or_assoc]

/-- A value holds no half when none of its strings does. -/
theorem hasHalf_eq_false {v : Json} :
  v.hasHalf = false ↔ ∀ s ∈ v.strs, s.hasHalf = false
  := by
  simp [hasHalf]

@[simp]
theorem hasHalf_str (s : Str) :
  (str s).hasHalf = s.hasHalf
  := by
  simp [hasHalf, strs]

/-- An array holds no half when none of its items does. -/
theorem hasHalf_arr {vs : List Json} (h : ∀ v ∈ vs, v.hasHalf = false) :
  (arr vs).hasHalf = false
  := by
  rw [hasHalf_eq_false, strs]
  intro s hs
  obtain ⟨v, hv, hmem⟩ := mem_strsOfItems.mp hs
  exact hasHalf_eq_false.mp (h v hv) s hmem

/-- An object holds no half when no name and no value of its members does. -/
theorem hasHalf_obj {ms : List (Str × Json)}
    (h : ∀ m ∈ ms, m.1.hasHalf = false ∧ m.2.hasHalf = false) :
  (obj ms).hasHalf = false
  := by
  rw [hasHalf_eq_false, strs]
  intro s hs
  obtain ⟨m, hm, rfl | hmem⟩ := mem_strsOfMembers.mp hs
  · exact (h m hm).1
  · exact hasHalf_eq_false.mp (h m hm).2 s hmem

/-! ### Readable values -/

/-- A value in which nothing is beyond the limits, with binary64 numbers whose texts are read
and strings that are kept. -/
structure IsReadable (limits : Limits) (l : Layout) (room : Nat) (v : Json) : Prop where
  excess : v.excess? room = none
  floats : ∀ x ∈ v.floats, Reader.Spells limits (floatText l.numbers x) (.float x)
  strs : ∀ s ∈ v.strs, limits.Keeps s

/-- `IsReadable` for the items of an array. -/
structure IsReadableItems (limits : Limits) (l : Layout) (room : Nat) (vs : List Json) : Prop where
  excess : excessItem? room vs = none
  floats : ∀ x ∈ floatsItems vs, Reader.Spells limits (floatText l.numbers x) (.float x)
  strs : ∀ s ∈ strsOfItems vs, limits.Keeps s

/-- `IsReadable` for the members of an object. -/
structure IsReadableMembers (limits : Limits) (l : Layout) (room : Nat)
    (ms : List (Str × Json)) : Prop where
  excess : excessMember? room ms = none
  floats : ∀ x ∈ floatsMembers ms, Reader.Spells limits (floatText l.numbers x) (.float x)
  strs : ∀ s ∈ strsOfMembers ms, limits.Keeps s

section

variable {limits : Limits} {l : Layout} {room : Nat} {v : Json} {vs : List Json} {k : Str}
  {ms : List (Str × Json)}

/-- A value without numbers is readable when its strings are kept and there is room for it. -/
theorem isReadable_of_numberFree (hv : v.numberFree = true) (hs : ∀ s ∈ v.strs, limits.Keeps s)
    (hd : v.depth < room) :
  IsReadable limits l room v
  := by
  obtain ⟨he, hf⟩ := excess?_of_numberFree v hv room hd
  exact ⟨he, by simp [hf], hs⟩

/-- An array is readable when there is room for it and its items are readable there. -/
theorem IsReadable.items (h : IsReadable limits l room (.arr vs)) :
  ∃ r, room = r + 1 ∧ IsReadableItems limits l r vs
  := by
  cases room with
  | zero => exact nomatch h.excess
  | succ r => exact ⟨r, rfl, h.excess, h.floats, h.strs⟩

/-- An object is readable when there is room for it and its members are readable there. -/
theorem IsReadable.members (h : IsReadable limits l room (.obj ms)) :
  ∃ r, room = r + 1 ∧ IsReadableMembers limits l r ms
  := by
  cases room with
  | zero => exact nomatch h.excess
  | succ r => exact ⟨r, rfl, h.excess, h.floats, h.strs⟩

/-- The first item of readable ones is readable, and so are the others. -/
theorem IsReadableItems.cons (h : IsReadableItems limits l room (v :: vs)) :
  IsReadable limits l room v ∧ IsReadableItems limits l room vs
  := by
  have he := h.excess
  have hf := h.floats
  have hs := h.strs
  rw [excessItem?, Option.orElse_eq_none] at he
  rw [floatsItems, List.forall_mem_append] at hf
  rw [strsOfItems, List.forall_mem_append] at hs
  exact ⟨⟨he.1, hf.1, hs.1⟩, ⟨he.2, hf.2, hs.2⟩⟩

/-- The first member of readable ones is readable, and so are the others. -/
theorem IsReadableMembers.cons (h : IsReadableMembers limits l room ((k, v) :: ms)) :
  limits.Keeps k ∧ IsReadable limits l room v ∧ IsReadableMembers limits l room ms
  := by
  have he := h.excess
  have hf := h.floats
  have hs := h.strs
  rw [excessMember?, Option.orElse_eq_none] at he
  rw [floatsMembers, List.forall_mem_append] at hf
  rw [strsOfMembers, List.cons_append, List.forall_mem_cons, List.forall_mem_append] at hs
  exact ⟨hs.1, ⟨he.1, hf.1, hs.2.1⟩, ⟨he.2, hf.2, hs.2.2⟩⟩

end

/-! ### Gaps -/

/-- A text of spaces and line feeds, which may stand between tokens. -/
def IsGap (t : Text) : Prop :=
  ∀ c ∈ t, c = ' ' ∨ c = '\n'

instance (t : Text) : Decidable (IsGap t) :=
  decidable_of_iff ((t.all fun c => c = ' ' || c = '\n') = true) (by simp [IsGap])

/-- Two gaps are one. -/
theorem IsGap.append {t u : Text} (ht : IsGap t) (hu : IsGap u) :
  IsGap (t ++ u)
  := by
  intro c hc
  obtain h | h := List.mem_append.mp hc
  · apply ht c h
  · apply hu c h

/-- A layout that puts only gaps between the tokens. -/
structure Layout.IsGapped (l : Layout) : Prop where
  item : IsGap l.itemGap
  name : IsGap l.nameGap

theorem Layout.compact_isGapped :
  Layout.compact.IsGapped
  := ⟨by decide, by decide⟩

theorem Layout.indented_isGapped :
  Layout.indented.IsGapped
  := ⟨by decide, by decide⟩

theorem Layout.indentedAscii_isGapped :
  Layout.indentedAscii.IsGapped
  := ⟨by decide, by decide⟩

/-- The start of a line is a gap. -/
theorem Layout.isGap_lineBreak (l : Layout) (level : Nat) :
  IsGap (l.lineBreak level)
  := by
  unfold lineBreak
  split
  · intro c hc
    simp at hc
  · intro c hc
    rw [List.mem_cons, List.mem_replicate] at hc
    obtain rfl | ⟨-, rfl⟩ := hc
    · right
      rfl
    · left
      rfl

namespace Reader

/-- Gaps before a character that is none are skipped. -/
theorem skipGap_append {gap : Text} (h : IsGap gap) {c : Char} (hc : isGap c = false) (t : Text) :
  skipGap (gap ++ c :: t) = c :: t
  := by
  have hg : ∀ d ∈ gap, isGap d = true := by
    intro d hd
    obtain rfl | rfl := h d hd
    · rfl
    · rfl
  rw [skipGap, List.dropWhile_append_of_pos hg, List.dropWhile_cons_of_neg (by simp [hc])]

/-- A character that continues no number ends it. -/
theorem endsNumber_cons {c : Char} (hc : asciiDigit? c = none ∧ c ≠ '.' ∧ c ≠ 'e' ∧ c ≠ 'E')
    (t : Text) :
  EndsNumber (c :: t)
  := by
  intro d hd
  rwa [← Option.some.inj hd]

/-- No number goes on with a gap, nor with a character that is no part of numbers. -/
theorem endsNumber_append {gap : Text} (h : IsGap gap) {c : Char}
    (hc : asciiDigit? c = none ∧ c ≠ '.' ∧ c ≠ 'e' ∧ c ≠ 'E') (t : Text) :
  EndsNumber (gap ++ c :: t)
  := by
  cases gap with
  | nil => exact endsNumber_cons hc t
  | cons g gap =>
      obtain rfl | rfl := h g List.mem_cons_self
      · exact endsNumber_cons (by decide) _
      · exact endsNumber_cons (by decide) _

/-- A character that written numbers are made of is no gap and opens or closes nothing. -/
theorem numberChars_front {c : Char} (hc : c ∈ numberChars) :
  isGap c = false ∧ c ≠ ']' ∧ c ≠ '\x7d' ∧ c ≠ '"' ∧ c ≠ '[' ∧ c ≠ '\x7b'
  := by
  have hall : ∀ c ∈ numberChars,
      isGap c = false ∧ c ≠ ']' ∧ c ≠ '\x7d' ∧ c ≠ '"' ∧ c ≠ '[' ∧ c ≠ '\x7b' :=
    Text.forall_mem_of_all (by decide)
  exact hall c hc

/-- The first character of a written value is no gap and closes nothing. -/
theorem writeAt_front {limits : Limits} {l : Layout} {room : Nat} (level : Nat) {v : Json}
    (h : IsReadable limits l room v) :
  ∃ c t, writeAt l level v = c :: t ∧ isGap c = false ∧ c ≠ ']' ∧ c ≠ '\x7d'
  := by
  cases v with
  | null => exact ⟨'n', ['u', 'l', 'l'], by rw [writeAt]; rfl, by decide, by decide, by decide⟩
  | bool b =>
      cases b with
      | true => exact ⟨'t', ['r', 'u', 'e'], by rw [writeAt]; rfl, by decide, by decide, by decide⟩
      | false =>
          exact ⟨'f', ['a', 'l', 's', 'e'], by rw [writeAt]; rfl, by decide, by decide, by decide⟩
  | int n =>
      obtain ⟨c, t, hc⟩ := List.exists_cons_of_ne_nil (decimalText_ne_nil n)
      have hfirst : c ∈ decimalText n := hc ▸ List.mem_cons_self
      obtain ⟨hgap, hitem, hmember, -⟩ :=
        numberChars_front (mem_numberChars_of_decimalText hfirst)
      exact ⟨c, t, by rw [writeAt, hc], hgap, hitem, hmember⟩
  | float x =>
      have hx := h.floats x (List.mem_singleton_self x)
      obtain ⟨c, t, hc⟩ := List.exists_cons_of_ne_nil hx.ne_nil
      obtain ⟨hgap, hitem, hmember, -⟩ := numberChars_front (hx.chars c (hc ▸ List.mem_cons_self))
      exact ⟨c, t, by rw [writeAt, hc], hgap, hitem, hmember⟩
  | str s =>
      exact ⟨'"', inner l.asciiOnly s ++ ['"'], by rw [writeAt]; rfl, by decide, by decide,
        by decide⟩
  | arr vs =>
      cases vs with
      | nil => exact ⟨'[', [']'], by rw [writeAt]; rfl, by decide, by decide, by decide⟩
      | cons v vs => exact ⟨'[', _, by rw [writeAt]; rfl, by decide, by decide, by decide⟩
  | obj ms =>
      cases ms with
      | nil => exact ⟨'\x7b', ['\x7d'], by rw [writeAt]; rfl, by decide, by decide, by decide⟩
      | cons m ms => exact ⟨'\x7b', _, by rw [writeAt]; rfl, by decide, by decide, by decide⟩

/-! ### Single steps -/

variable (limits : Limits)

/-- A written string is read. -/
theorem value_str (asciiOnly : Bool) (fuel room : Nat) {s : Str} (hs : limits.Keeps s) (t : Text) :
  value limits (fuel + 1) room (stringText asciiOnly s ++ t) = .ok (.str s, t)
  := by
  rw [stringText_append, value, string_inner _ _ _ hs]

/-- An array is read by its items. -/
theorem value_arr {fuel room : Nat} {gap t rest : Text} {vs : List Json} (hgap : IsGap gap)
    {c : Char} (hc : isGap c = false) (hne : c ≠ ']')
    (h : items limits fuel room (c :: t) = .ok (vs, rest)) :
  value limits (fuel + 1) (room + 1) ('[' :: (gap ++ c :: t)) = .ok (.arr vs, rest)
  := by
  rw [value, skipGap_append hgap hc]
  split
  · next he => exact absurd (List.cons.inj he).1 hne
  · rw [h]

/-- An object is read by its members. -/
theorem value_obj {fuel room : Nat} {gap t rest : Text} {ms : List (Str × Json)}
    (hgap : IsGap gap) {c : Char} (hc : isGap c = false) (hne : c ≠ '\x7d')
    (h : members limits fuel room (c :: t) = .ok (ms, rest)) :
  value limits (fuel + 1) (room + 1) ('\x7b' :: (gap ++ c :: t)) = .ok (.obj ms, rest)
  := by
  rw [value, skipGap_append hgap hc]
  split
  · next he => exact absurd (List.cons.inj he).1 hne
  · rw [h]

/-- The last item is read up to the closing bracket. -/
theorem items_last {fuel room : Nat} {t gap rest : Text} {v : Json} (hgap : IsGap gap)
    (h : value limits fuel room t = .ok (v, gap ++ ']' :: rest)) :
  items limits (fuel + 1) room t = .ok ([v], rest)
  := by
  rw [items, h]
  simp only [skipGap_append hgap (by decide : isGap ']' = false)]

/-- An item is read up to the comma behind it. -/
theorem items_more {fuel room : Nat} {t gap u rest : Text} {v : Json} {vs : List Json}
    (hgap : IsGap gap) {c : Char} (hc : isGap c = false)
    (h : value limits fuel room t = .ok (v, ',' :: (gap ++ c :: u)))
    (hs : items limits fuel room (c :: u) = .ok (vs, rest)) :
  items limits (fuel + 1) room t = .ok (v :: vs, rest)
  := by
  have hcomma (w : Text) : skipGap (',' :: w) = ',' :: w := rfl
  rw [items, h]
  simp only [hcomma, skipGap_append hgap hc, hs]

/-- The last member is read up to the closing brace. -/
theorem members_last {fuel room : Nat} {k : Str} (hk : limits.Keeps k) {t gap gap' rest : Text}
    {asciiOnly : Bool} {v : Json} (hgap : IsGap gap) (hgap' : IsGap gap') {c : Char}
    (hc : isGap c = false)
    (h : value limits fuel room (c :: t) = .ok (v, gap' ++ '\x7d' :: rest)) :
  members limits (fuel + 1) room (stringText asciiOnly k ++ (':' :: (gap ++ c :: t)))
    = .ok ([(k, v)], rest)
  := by
  have hcolon (w : Text) : skipGap (':' :: w) = ':' :: w := rfl
  rw [stringText_append, members, string_inner _ _ _ hk]
  simp only [hcolon, skipGap_append hgap hc, h,
    skipGap_append hgap' (by decide : isGap '\x7d' = false)]

/-- A member is read up to the comma behind it. -/
theorem members_more (asciiOnly : Bool) {fuel room : Nat} {k : Str} (hk : limits.Keeps k)
    {t gap gap' u rest : Text} {v : Json} {ms : List (Str × Json)} (hgap : IsGap gap) (hgap' : IsGap gap') {c d : Char}
    (hc : isGap c = false) (hd : isGap d = false)
    (h : value limits fuel room (c :: t) = .ok (v, ',' :: (gap' ++ d :: u)))
    (hs : members limits fuel room (d :: u) = .ok (ms, rest)) :
  members limits (fuel + 1) room (stringText asciiOnly k ++ (':' :: (gap ++ c :: t)))
    = .ok ((k, v) :: ms, rest)
  := by
  have hcolon (w : Text) : skipGap (':' :: w) = ':' :: w := rfl
  have hcomma (w : Text) : skipGap (',' :: w) = ',' :: w := rfl
  rw [stringText_append, members, string_inner _ _ _ hk]
  simp only [hcolon, hcomma, skipGap_append hgap hc, skipGap_append hgap' hd, h, hs]

/-! ### Whole values -/

/-- The words of JSON are read. -/
theorem value_word {fuel room : Nat} (t : Text) :
  value limits (fuel + 1) room (("null" : Text) ++ t) = .ok (.null, t)
    ∧ value limits (fuel + 1) room (("true" : Text) ++ t) = .ok (.bool true, t)
    ∧ value limits (fuel + 1) room (("false" : Text) ++ t) = .ok (.bool false, t)
  := ⟨rfl, rfl, rfl⟩

variable {limits} in
/-- What spells a number is read. -/
theorem value_spells {u : Text} {v : Json} (h : Spells limits u v) {fuel room : Nat} {t : Text}
    (ht : EndsNumber t) :
  value limits (fuel + 1) room (u ++ t) = .ok (v, t)
  := by
  obtain ⟨c, w, rfl⟩ := List.exists_cons_of_ne_nil h.ne_nil
  obtain ⟨-, -, -, hstr, harr, hobj⟩ := numberChars_front (h.chars c List.mem_cons_self)
  have hread := h.read t ht
  rw [List.cons_append] at hread ⊢
  rw [value, hread]
  · rintro rest hc
    exact hstr (List.cons.inj hc).1
  · rintro rest hc
    exact harr (List.cons.inj hc).1
  · rintro rest hc
    exact hobj (List.cons.inj hc).1

variable {l : Layout} {limits}

mutual

/-- A written value is read, with what stands behind it left. -/
theorem value_writeAt (hl : l.IsGapped) (v : Json) (level fuel room : Nat)
    (hv : IsReadable limits l room v) (hf : (writeAt l level v).length ≤ fuel) {t : Text}
    (ht : EndsNumber t) :
  value limits fuel room (writeAt l level v ++ t) = .ok (v, t)
  := by
  obtain ⟨c, u, hfront, -⟩ := writeAt_front level hv
  obtain ⟨fuel, rfl⟩ : ∃ f, fuel = f + 1 := by
    rw [hfront, List.length_cons] at hf
    exact ⟨fuel - 1, by omega⟩
  match v with
  | .null => rw [writeAt, (value_word limits t).1]
  | .bool true => rw [writeAt, if_pos rfl, (value_word limits t).2.1]
  | .bool false => rw [writeAt, if_neg (by decide), (value_word limits t).2.2]
  | .int n =>
      have hn : ¬ integerLimit < (decimalDigits n.natAbs).length := by
        intro hlong
        have hexcess := hv.excess
        rw [excess?] at hexcess
        simp only [if_pos hlong] at hexcess
        cases hexcess
      rw [writeAt]
      exact value_spells (spells_int (Nat.le_of_not_lt hn)) ht
  | .float x =>
      rw [writeAt]
      exact value_spells (hv.floats x (List.mem_singleton_self x)) ht
  | .str s => rw [writeAt, value_str limits _ _ _ (hv.strs s (List.mem_singleton_self s))]
  | .arr [] =>
      obtain ⟨room, rfl, -⟩ := hv.items
      rw [writeAt]
      rfl
  | .obj [] =>
      obtain ⟨room, rfl, -⟩ := hv.members
      rw [writeAt]
      rfl
  | .arr (v :: vs) =>
      obtain ⟨room, rfl, hvs⟩ := hv.items
      obtain ⟨d, w, hd, hgap, hne, -⟩ := writeAt_front (level + 1) hvs.cons.1
      rw [writeAt] at hf ⊢
      have hi := items_write hl v vs (level + 1) fuel room hvs
        (l.isGap_lineBreak level) (by simp at hf ⊢; omega) t
      rw [hd] at hi ⊢
      have ha := value_arr limits (l.isGap_lineBreak (level + 1)) hgap hne hi
      simpa using ha
  | .obj ((k, v) :: ms) =>
      obtain ⟨room, rfl, hms⟩ := hv.members
      rw [writeAt] at hf ⊢
      have hm := members_write hl k v ms (level + 1) fuel room hms
        (l.isGap_lineBreak level) (by simp at hf ⊢; omega) t
      rw [stringText_append] at hm
      have ho := value_obj limits (l.isGap_lineBreak (level + 1)) (by decide) (by decide) hm
      rw [← stringText_append] at ho
      simpa using ho
termination_by fuel

/-- Written items are read up to the closing bracket. -/
theorem items_write (hl : l.IsGapped) (v : Json) (vs : List Json) (level fuel room : Nat)
    (hall : IsReadableItems limits l room (v :: vs)) {gap : Text} (hgap : IsGap gap)
    (hf : (writeAt l level v ++ writeItems l level vs ++ gap ++ [']']).length ≤ fuel) (t : Text) :
  items limits fuel room (writeAt l level v ++ (writeItems l level vs ++ (gap ++ ']' :: t)))
    = .ok (v :: vs, t)
  := by
  obtain ⟨hv, hvs⟩ := hall.cons
  obtain ⟨fuel, rfl⟩ : ∃ f, fuel = f + 1 := by
    rw [List.length_append] at hf
    exact ⟨fuel - 1, by simp at hf; omega⟩
  match vs with
  | [] =>
      have h := value_writeAt hl v level fuel room hv (by simp at hf; omega)
        (endsNumber_append hgap (by decide : asciiDigit? ']' = none ∧ _) t)
      rw [writeItems, List.nil_append]
      apply items_last limits hgap h
  | w :: vs =>
      obtain ⟨d, u, hd, hc, -⟩ := writeAt_front level hvs.cons.1
      rw [writeItems] at hf ⊢
      have hgaps := hl.item.append (l.isGap_lineBreak level)
      have h := value_writeAt hl v level fuel room hv (by simp at hf; omega)
        (endsNumber_cons (by decide : asciiDigit? ',' = none ∧ _)
          ((l.itemGap ++ l.lineBreak level) ++ (writeAt l level w
            ++ (writeItems l level vs ++ (gap ++ ']' :: t)))))
      have hs := items_write hl w vs level fuel room hvs hgap (by simp at hf ⊢; omega) t
      rw [hd] at h hs ⊢
      have hi := items_more limits hgaps hc h hs
      simpa using hi
termination_by fuel

/-- Written members are read up to the closing brace. -/
theorem members_write (hl : l.IsGapped) (k : Str) (v : Json) (ms : List (Str × Json))
    (level fuel room : Nat) (hall : IsReadableMembers limits l room ((k, v) :: ms)) {gap : Text}
    (hgap : IsGap gap)
    (hf : (stringText l.asciiOnly k ++ ':' :: (l.nameGap ++ (writeAt l level v
      ++ (writeMembers l level ms ++ (gap ++ ['\x7d']))))).length ≤ fuel) (t : Text) :
  members limits fuel room (stringText l.asciiOnly k ++ ':' :: (l.nameGap ++ (writeAt l level v
      ++ (writeMembers l level ms ++ (gap ++ '\x7d' :: t)))))
    = .ok ((k, v) :: ms, t)
  := by
  obtain ⟨hk, hv, hms⟩ := hall.cons
  obtain ⟨fuel, rfl⟩ : ∃ f, fuel = f + 1 := by
    rw [stringText_append, List.length_cons] at hf
    exact ⟨fuel - 1, by omega⟩
  obtain ⟨c, u, hc, hcg, -⟩ := writeAt_front level hv
  match ms with
  | [] =>
      rw [writeMembers, List.nil_append] at hf ⊢
      have h := value_writeAt hl v level fuel room hv (by simp [stringText] at hf; omega)
        (endsNumber_append hgap (by decide : asciiDigit? '\x7d' = none ∧ _) t)
      rw [hc] at h ⊢
      apply members_last limits hk hl.name hgap hcg h
  | (k', w) :: ms =>
      rw [writeMembers] at hf ⊢
      have hgaps := hl.item.append (l.isGap_lineBreak level)
      have h := value_writeAt hl v level fuel room hv (by simp [stringText] at hf; omega)
        (endsNumber_cons (by decide : asciiDigit? ',' = none ∧ _)
          ((l.itemGap ++ l.lineBreak level) ++ (stringText l.asciiOnly k' ++ ':' ::
            (l.nameGap ++ (writeAt l level w
              ++ (writeMembers l level ms ++ (gap ++ '\x7d' :: t)))))))
      have hs := members_write hl k' w ms level fuel room hms hgap
        (by simp [stringText] at hf ⊢; omega) t
      rw [hc] at h
      rw [stringText_append _ k'] at h hs
      have hm := members_more limits l.asciiOnly hk hl.name hgaps hcg (by decide) h hs
      rw [← stringText_append _ k'] at hm
      rw [hc]
      simpa using hm
termination_by fuel

end

end Reader

variable {l : Layout}

/-- A readable value that is written in a layout is read as it is. -/
theorem readWithin_write_eq {limits : Limits} (hl : l.IsGapped) {v : Json}
    (hv : IsReadable limits l limits.depth v) :
  readWithin limits (write l v) = .ok v
  := by
  obtain ⟨c, u, hc, hg, -⟩ := Reader.writeAt_front 0 hv
  have hskip : Reader.skipGap (write l v) = write l v := by
    have hs : Reader.skipGap ([] ++ c :: u) = c :: u :=
      Reader.skipGap_append (by decide) hg u
    rwa [List.nil_append, ← hc] at hs
  have hr := Reader.value_writeAt hl v 0 ((write l v).length + 2) limits.depth hv
    (Nat.le_add_right _ _) (nofun : Reader.EndsNumber [])
  rw [List.append_nil, ← write] at hr
  have hdoc : Reader.document limits (write l v) = .ok v := by
    rw [Reader.document, hskip, hr]
    rfl
  rw [readWithin, hdoc]

/-- A value without numbers whose strings are texts is read as it is when it is written in a
layout. -/
theorem readWithin_write (limits : Limits) (hl : l.IsGapped) {v : Json} (hv : v.numberFree = true)
    (hs : v.hasHalf = false) (hd : v.depth < limits.depth) :
  readWithin limits (write l v) = .ok v
  := readWithin_write_eq hl (isReadable_of_numberFree hv
      (fun s h => limits.keeps_of_hasHalf (hasHalf_eq_false.mp hs s h)) hd)

/-! ### Characters -/

/-- A layout whose marks, words, gaps and strings are made of characters with a property. -/
structure Layout.Admits (l : Layout) (P : Char → Prop) : Prop where
  marks : ∀ c ∈ ("[]\x7b\x7d,:nultrefas" : Text), P c
  numbers : ∀ c ∈ Reader.numberChars, P c
  itemGap : ∀ c ∈ l.itemGap, P c
  nameGap : ∀ c ∈ l.nameGap, P c
  lineBreak : ∀ level, ∀ c ∈ l.lineBreak level, P c
  strings : ∀ t, ∀ c ∈ stringText l.asciiOnly t, P c

section

variable {P : Char → Prop}

mutual

/-- A value is written in characters that its layout admits. -/
theorem forall_mem_writeAt (h : l.Admits P) : (v : Json) →
    (∀ x ∈ v.floats, ∀ c ∈ floatText l.numbers x, P c) → (level : Nat) →
  ∀ c ∈ writeAt l level v, P c
  | .null, _, _ => by
      rw [writeAt]
      exact fun c hc => h.marks c (Text.forall_mem_of_all (by decide) c hc)
  | .bool b, _, _ => by
      rw [writeAt]
      intro c hc
      apply h.marks
      cases b with
      | true => exact Text.forall_mem_of_all (by decide) c hc
      | false => exact Text.forall_mem_of_all (by decide) c hc
  | .int _, _, _ => by
      rw [writeAt]
      exact fun c hc => h.numbers c (Reader.mem_numberChars_of_decimalText hc)
  | .float x, hx, _ => by
      rw [writeAt]
      exact hx x (List.mem_singleton_self x)
  | .str s, _, _ => by
      rw [writeAt]
      exact h.strings s
  | .arr [], _, _ => by
      rw [writeAt]
      exact fun c hc => h.marks c (Text.forall_mem_of_all (by decide) c hc)
  | .obj [], _, _ => by
      rw [writeAt]
      exact fun c hc => h.marks c (Text.forall_mem_of_all (by decide) c hc)
  | .arr (v :: vs), hx, level => by
      rw [floats, floatsItems, List.forall_mem_append] at hx
      have h₁ := forall_mem_writeAt h v hx.1 (level + 1)
      have h₂ := forall_mem_writeItems h vs hx.2 (level + 1)
      have h₃ := h.lineBreak level
      have h₄ := h.lineBreak (level + 1)
      have hmarks : P '[' ∧ P ']' := ⟨h.marks _ (by decide), h.marks _ (by decide)⟩
      rw [writeAt]
      simp only [List.forall_mem_append, List.forall_mem_singleton]
      exact ⟨⟨⟨⟨⟨hmarks.1, h₄⟩, h₁⟩, h₂⟩, h₃⟩, hmarks.2⟩
  | .obj ((k, v) :: ms), hx, level => by
      rw [floats, floatsMembers, List.forall_mem_append] at hx
      have h₁ := forall_mem_writeAt h v hx.1 (level + 1)
      have h₂ := forall_mem_writeMembers h ms hx.2 (level + 1)
      have h₃ := h.lineBreak level
      have h₄ := h.lineBreak (level + 1)
      have hmarks : P '\x7b' ∧ P ':' ∧ P '\x7d' :=
        ⟨h.marks _ (by decide), h.marks _ (by decide), h.marks _ (by decide)⟩
      rw [writeAt]
      simp only [List.forall_mem_append, List.forall_mem_singleton]
      exact ⟨⟨⟨⟨⟨⟨⟨⟨hmarks.1, h₄⟩, h.strings k⟩, hmarks.2.1⟩, h.nameGap⟩, h₁⟩, h₂⟩, h₃⟩, hmarks.2.2⟩

/-- `forall_mem_writeAt` for the items behind the first one. -/
theorem forall_mem_writeItems (h : l.Admits P) : (vs : List Json) →
    (∀ x ∈ floatsItems vs, ∀ c ∈ floatText l.numbers x, P c) → (level : Nat) →
  ∀ c ∈ writeItems l level vs, P c
  | [], _, _ => by
      rw [writeItems]
      exact nofun
  | v :: vs, hx, level => by
      rw [floatsItems, List.forall_mem_append] at hx
      have h₁ := forall_mem_writeAt h v hx.1 level
      have h₂ := forall_mem_writeItems h vs hx.2 level
      have hcomma : P ',' := h.marks _ (by decide)
      rw [writeItems]
      simp only [List.forall_mem_append, List.forall_mem_singleton]
      exact ⟨⟨⟨⟨hcomma, h.itemGap⟩, h.lineBreak level⟩, h₁⟩, h₂⟩

/-- `forall_mem_writeAt` for the members behind the first one. -/
theorem forall_mem_writeMembers (h : l.Admits P) : (ms : List (Str × Json)) →
    (∀ x ∈ floatsMembers ms, ∀ c ∈ floatText l.numbers x, P c) → (level : Nat) →
  ∀ c ∈ writeMembers l level ms, P c
  | [], _, _ => by
      rw [writeMembers]
      exact nofun
  | (k, v) :: ms, hx, level => by
      rw [floatsMembers, List.forall_mem_append] at hx
      have h₁ := forall_mem_writeAt h v hx.1 level
      have h₂ := forall_mem_writeMembers h ms hx.2 level
      have hmarks : P ',' ∧ P ':' := ⟨h.marks _ (by decide), h.marks _ (by decide)⟩
      rw [writeMembers]
      simp only [List.forall_mem_append, List.forall_mem_singleton]
      exact ⟨⟨⟨⟨⟨⟨⟨hmarks.1, h.itemGap⟩, h.lineBreak level⟩, h.strings k⟩, hmarks.2⟩, h.nameGap⟩, h₁⟩,
        h₂⟩

end

end

/-! ### Newlines -/

/-- No gap that is written has a carriage return. -/
theorem ne_of_isGap {t : Text} (h : IsGap t) :
  ∀ c ∈ t, c ≠ '\r'
  := by
  intro c hc
  obtain rfl | rfl := h c hc
  · decide
  · decide

/-- No escape has a carriage return. -/
theorem notMem_unicodeEscape (n : Nat) :
  '\r' ∉ unicodeEscape n
  := by
  have hd (m : Nat) : '\r' ≠ hexDigit (m % 16) := by
    have hall : ∀ d < 16, '\r' ≠ hexDigit d := by decide
    apply hall _ (Nat.mod_lt m (by decide))
  rw [unicodeEscape, hexText_four]
  simp [hd]

/-- No character of a string is written with a carriage return. -/
theorem notMem_stringChar (asciiOnly : Bool) (c : Char) :
  '\r' ∉ stringChar asciiOnly c
  := by
  unfold stringChar
  split_ifs with _ _ _ hc
  · decide
  · decide
  · decide
  · decide
  · decide
  · decide
  · decide
  · apply notMem_unicodeEscape
  · simpa using Ne.symm hc
  · apply notMem_unicodeEscape
  · rw [List.mem_append, not_or]
    exact ⟨notMem_unicodeEscape _, notMem_unicodeEscape _⟩

/-- The characters and the halves of a string are written without carriage returns. -/
theorem notMem_inner (asciiOnly : Bool) (s : Str) :
  '\r' ∉ Reader.inner asciiOnly s
  := by
  induction s with
  | text t => simp [Reader.inner_text, notMem_stringChar]
  | half lead h rest ih =>
      simp [Reader.inner_half, notMem_stringChar, notMem_unicodeEscape, ih]

/-- No string is written with a carriage return. -/
theorem notMem_stringText (asciiOnly : Bool) (s : Str) :
  '\r' ∉ stringText asciiOnly s
  := by
  have hs := notMem_inner asciiOnly s
  simp [stringText, hs]

/-- No layout with gaps between the tokens writes carriage returns. -/
theorem Layout.IsGapped.admits (h : l.IsGapped) :
  l.Admits (· ≠ '\r')
  where
  marks := Text.forall_mem_of_all (by decide)
  numbers := Text.forall_mem_of_all (by decide)
  itemGap := ne_of_isGap h.item
  nameGap := ne_of_isGap h.name
  lineBreak level := ne_of_isGap (l.isGap_lineBreak level)
  strings t _ hc he := notMem_stringText l.asciiOnly t (he ▸ hc)

/-- The newlines of a value whose binary64 numbers are written as texts that are read are unified
already. -/
theorem unifyNewlines_write_eq {limits : Limits} (hl : l.IsGapped) {v : Json}
    (hv : ∀ x ∈ v.floats, Reader.Spells limits (floatText l.numbers x) (.float x)) :
  Text.unifyNewlines (write l v) = write l v
  := by
  have hchars := forall_mem_writeAt hl.admits v (fun x hx c hc => by
    have hmem := (hv x hx).chars c hc
    rintro rfl
    revert hmem
    decide) 0
  exact Text.unifyNewlines_of_notMem fun hr => hchars _ hr rfl

/-- The newlines of a written value without numbers are unified already. -/
theorem unifyNewlines_write (hl : l.IsGapped) {v : Json} (hv : v.numberFree = true) :
  Text.unifyNewlines (write l v) = write l v
  := by
  have hfloats := (excess?_of_numberFree v hv (v.depth + 1) (Nat.lt_succ_self _)).2
  have hspells : ∀ x ∈ v.floats, Reader.Spells (.ofRoom .least) (floatText l.numbers x) (.float x) := by
    simp [hfloats]
  exact unifyNewlines_write_eq hl hspells

end Json

end BranchingStory
