import BranchingStory.Proofs.Markup.Extension
import BranchingStory.Proofs.Markup.Script
import Mathlib.Data.Option.Basic

/-!
# Reading what is written

What the readers of names, attributes and elements find in text that is written as the
printer writes it: every written part is read whole, and what follows is left.
-/

namespace BranchingStory

/-! ### Searching -/

namespace Text

/-- A search passes over a front part where nothing is read. -/
theorem collect_skip {α : Type} {read : Text → Option (α × Text)} {u t : Text}
    (h : ∀ j < u.length, read ((u ++ t).drop j) = none) :
  collect read (u ++ t) = collect read t
  := by
  induction u with
  | nil => rfl
  | cons c u ih =>
      have h₀ : read (c :: (u ++ t)) = none := h 0 (by simp)
      rw [List.cons_append, collect, h₀]
      apply ih
      intro j hj
      apply h (j + 1) (by simpa using hj)

/-- A search that reads a front part goes on behind it. -/
theorem collect_take {α : Type} {read : Text → Option (α × Text)} {a : α} {u t : Text}
    (hne : u ≠ []) (h : read (u ++ t) = some (a, t)) :
  collect read (u ++ t) = a :: collect read t
  := by
  cases u with
  | nil => exact absurd rfl hne
  | cons c u =>
      rw [List.cons_append] at h ⊢
      rw [collect, h]
      simp

/-- A search that cannot begin at any character of a text passes over that text. -/
theorem collect_skip_of_head {α : Type} {read : Text → Option (α × Text)} {u : Text}
    (h : ∀ c ∈ u, ∀ r, read (c :: r) = none) (t : Text) :
  collect read (u ++ t) = collect read t
  := by
  apply collect_skip
  intro j hj
  rw [List.drop_append_of_le_length hj.le, List.drop_eq_getElem_cons hj]
  apply h _ (List.getElem_mem hj)

/-- A search that reads everything that is written finds all of it, whatever of what it does not
read stands in between. -/
theorem collect_parts {α β : Type} {read : Text → Option (α × Text)} {write : β → Text}
    {f : β → α} {lead : Text} {parts : List (β × Text)}
    (hn : ∀ c, c ≠ '<' → ∀ r, read (c :: r) = none)
    (hr : ∀ p ∈ parts, ∀ t, read (write p.1 ++ t) = some (f p.1, t))
    (hw : ∀ p ∈ parts, write p.1 ≠ []) (hlead : '<' ∉ lead) (hgap : ∀ p ∈ parts, '<' ∉ p.2) :
  collect read (lead ++ parts.flatMap fun p => write p.1 ++ p.2) = parts.map fun p => f p.1
  := by
  have hskip (u t : Text) (hu : '<' ∉ u) : collect read (u ++ t) = collect read t := by
    apply collect_skip_of_head
    intro c hc
    apply hn
    rintro rfl
    apply hu hc
  rw [hskip _ _ hlead]
  induction parts with
  | nil => simp [collect]
  | cons p parts ih =>
      have hp := List.mem_cons_self (a := p) (l := parts)
      rw [List.flatMap_cons, List.append_assoc, collect_take (hw p hp) (hr p hp _),
        hskip _ _ (hgap p hp), List.map_cons]
      congr 1
      apply ih
      · exact fun q hq => hr q (List.mem_cons_of_mem _ hq)
      · exact fun q hq => hw q (List.mem_cons_of_mem _ hq)
      · exact fun q hq => hgap q (List.mem_cons_of_mem _ hq)

theorem collect_nil {α : Type} (read : Text → Option (α × Text)) :
  collect read [] = []
  := by
  rw [collect]

/-- A text is left at the first place where something is read. -/
theorem until?_append {read : Text → Option Text} {u : Text} {c : Char} {t rest : Text}
    (hu : ∀ d ∈ u, ∀ r, read (d :: r) = none) (h : read (c :: t) = some rest) :
  until? read (u ++ c :: t) = some (u, rest)
  := by
  induction u with
  | nil => simp [until?, h]
  | cons d u ih =>
      have hd := hu d List.mem_cons_self (u ++ c :: t)
      simp [until?, hd, ih fun e he => hu e (List.mem_cons_of_mem _ he)]

/-- A text is cut at the first place of a character. -/
theorem cutAt?_mid {c : Char} {u : Text} (hu : c ∉ u) (t : Text) :
  cutAt? c (u ++ c :: t) = some (u, t)
  := cutAt?_eq_some_iff.mpr ⟨rfl, hu⟩

end Text

/-! ### Names and closing tags -/

namespace TagName

/-- A name whose letters spell themselves spells itself. -/
theorem Spelled.refl {name : Text} (h : (name.all fun a => spells a a) = true) :
  Spelled name name
  := List.forall₂_same.mpr (List.all_eq_true.mp h)

/-- A spelled name is read, and what follows is left. -/
theorem take?_of_spelled {name spelling : Text} (h : Spelled name spelling) (t : Text) :
  take? name (spelling ++ t) = some (spelling, t)
  := take?_eq_some_iff.mpr ⟨rfl, h⟩

/-- A name is not read where its first letter is not spelled. -/
theorem take?_cons_of_not {a c : Char} (h : spells a c = false) (name t : Text) :
  take? (a :: name) (c :: t) = none
  := by
  simp [take?, h]

/-- An angle bracket ends a tag. -/
theorem tagEnd?_cons (t : Text) :
  tagEnd? ('>' :: t) = some (['>'], t)
  := tagEnd?_eq_some_iff.mpr ⟨[], by simp, rfl, rfl⟩

theorem afterSame?_append (spelling t : Text) :
  afterSame? spelling (spelling ++ t) = some t
  := by
  induction spelling with
  | nil => rfl
  | cons a spelling ih => simp [afterSame?, ih]

/-- A closing tag that repeats a spelling is read. -/
theorem closingSame?_append (spelling t : Text) :
  closingSame? spelling ('<' :: '/' :: (spelling ++ '>' :: t)) = some t
  := by
  simp [closingSame?, afterSame?_append, tagEnd?_cons]

theorem closingSame?_of_ne (spelling : Text) {c : Char} (hc : c ≠ '<') (t : Text) :
  closingSame? spelling (c :: t) = none
  := by
  unfold closingSame?
  split
  · next h => exact absurd (List.cons.inj h).1 hc
  · rfl

/-- A closing tag of a spelled name is read. -/
theorem closing?_of_spelled {name spelling : Text} (h : Spelled name spelling) (t : Text) :
  closing? name ('<' :: '/' :: (spelling ++ '>' :: t))
    = some ('<' :: '/' :: (spelling ++ ['>']), t)
  := closing?_eq_some_iff.mpr ⟨spelling, [], h, by simp, rfl, by simp⟩

/-- No closing tag begins with any other character. -/
theorem closing?_of_ne (name : Text) {c : Char} (hc : c ≠ '<') (t : Text) :
  closing? name (c :: t) = none
  := by
  apply Option.eq_none_iff_forall_ne_some.mpr
  rintro ⟨closing, rest⟩ h
  obtain ⟨s, b, -, -, rfl, ht⟩ := closing?_eq_some_iff.mp h
  apply hc (List.cons.inj ht).1

end TagName

/-! ### Attributes -/

namespace Attribute

/-- No attribute begins at a character that is not part of a name. -/
theorem at?_of_not {c : Char} (hc : isNameChar c = false) (t : Text) :
  at? (c :: t) = none
  := by
  simp [at?, hc]

/-- An attribute in double quotes is read. -/
theorem at?_written {name value : Text} (hne : name ≠ []) (hn : ∀ c ∈ name, isNameChar c = true)
    (hv : '"' ∉ value) (t : Text) :
  at? (name ++ '=' :: '"' :: (value ++ '"' :: t)) = some ((name, value), t)
  := by
  have heq : isNameChar '=' = false := by decide
  have hb : isBlank '=' = false := by decide
  have hq : isBlank '"' = false := by decide
  have ht : (name ++ '=' :: '"' :: (value ++ '"' :: t)).takeWhile isNameChar = name := by
    rw [List.takeWhile_append_of_pos hn]
    simp [heq]
  have hd : (name ++ '=' :: '"' :: (value ++ '"' :: t)).dropWhile isNameChar
      = '=' :: '"' :: (value ++ '"' :: t) := by
    rw [List.dropWhile_append_of_pos hn]
    simp [heq]
  simp [at?, ht, hd, hne, hb, hq, value?, Text.cutAt?_mid hv]

/-- No attribute is read in a word that a space and a further word follow. -/
theorem at?_word {word : Text} {c : Char} (hne : word ≠ [])
    (hw : ∀ d ∈ word, isNameChar d = true) (hb : isBlank c = false) (he : c ≠ '=') (t : Text) :
  at? (word ++ ' ' :: c :: t) = none
  := by
  have hs : isNameChar ' ' = false := by decide
  have hsb : isBlank ' ' = true := by decide
  have ht : (word ++ ' ' :: c :: t).takeWhile isNameChar = word := by
    rw [List.takeWhile_append_of_pos hw]
    simp [hs]
  have hd : (word ++ ' ' :: c :: t).dropWhile isNameChar = ' ' :: c :: t := by
    rw [List.dropWhile_append_of_pos hw]
    simp [hs]
  simp [at?, ht, hd, hne, hsb, hb, he]

/-- Attributes as they are written, one after another. -/
def written (as : List (Text × Text)) : Text :=
  as.flatMap fun a => attributeText a.1 a.2

/-- Written attributes up to the end of their tag begin with a space, or there are none. -/
theorem written_front (as : List (Text × Text)) :
  ∃ c u, c ∈ [' ', '>'] ∧ written as ++ ['>'] = c :: u
  := by
  cases as with
  | nil => exact ⟨'>', [], by decide, rfl⟩
  | cons a as =>
      exact ⟨' ', a.1 ++ ['=', '"'] ++ a.2 ++ ['"'] ++ written as ++ ['>'], by decide,
        by simp [written, attributeText]⟩

/-- An attribute that is read back from what is written: it has a name that begins with no
blank and no equals sign, and a value without a double quote. -/
structure Writable (a : Text × Text) : Prop where
  name : ∃ c name, a.1 = c :: name ∧ isBlank c = false ∧ c ≠ '='
    ∧ ∀ d ∈ a.1, isNameChar d = true
  value : '"' ∉ a.2

/-- Written attributes are found in front of any text. -/
theorem all_written_append {as : List (Text × Text)} (h : ∀ a ∈ as, Writable a) (t : Text) :
  all (written as ++ t) = as ++ all t
  := by
  induction as with
  | nil => rfl
  | cons a as ih =>
      obtain ⟨⟨c, name, hc, -, -, hn⟩, hv⟩ := h a List.mem_cons_self
      have hs : isNameChar ' ' = false := by decide
      have hne : a.1 ≠ [] := by simp [hc]
      have hsplit : written (a :: as) ++ t
          = [' '] ++ ((a.1 ++ '=' :: '"' :: (a.2 ++ ['"'])) ++ (written as ++ t)) := by
        simp [written, attributeText]
      have hread : at? ((a.1 ++ '=' :: '"' :: (a.2 ++ ['"'])) ++ (written as ++ t))
          = some (a, written as ++ t) := by
        have hw := at?_written hne hn hv (written as ++ t)
        simpa using hw
      rw [hsplit, all, Text.collect_skip_of_head (by simpa using at?_of_not hs),
        Text.collect_take (by simp) hread, List.cons_append,
        ← ih fun b hb => h b (List.mem_cons_of_mem _ hb)]
      rfl

/-- The attributes of an opening tag are those that are written. -/
theorem all_tag {word : Text} {a : Text × Text} {as : List (Text × Text)}
    (hw : ∀ d ∈ word, isNameChar d = true) (h : ∀ b ∈ a :: as, Writable b) :
  all ('<' :: (word ++ (written (a :: as) ++ ['>']))) = a :: as
  := by
  have hlt : isNameChar '<' = false := by decide
  have hgt : isNameChar '>' = false := by decide
  obtain ⟨⟨c, name, hc, hb, he, -⟩, -⟩ := h a List.mem_cons_self
  have hsplit : written (a :: as) ++ ['>']
      = ' ' :: c :: (name ++ '=' :: '"' :: (a.2 ++ '"' :: (written as ++ ['>']))) := by
    simp [written, attributeText, hc]
  have hword : ∀ j < word.length, at? ((word ++ (written (a :: as) ++ ['>'])).drop j) = none := by
    intro j hj
    rw [List.drop_append_of_le_length hj.le, hsplit]
    apply at?_word _ (fun d hd => hw d (List.mem_of_mem_drop hd)) hb he
    simpa using hj
  have hall : all (written (a :: as) ++ ['>']) = (a :: as) ++ all ['>'] :=
    all_written_append h ['>']
  have hend : all ['>'] = [] := by
    rw [all, ← List.append_nil ['>'], Text.collect_skip_of_head (by simpa using at?_of_not hgt),
      Text.collect_nil]
  rw [← List.singleton_append, all, Text.collect_skip_of_head (by simpa using at?_of_not hlt),
    Text.collect_skip hword, ← all, hall, hend, List.append_nil]

end Attribute

/-! ### Elements -/

/-- The characters of a written element with text behind it. -/
theorem elementText_append (name attributes inner t : Text) :
  elementText name attributes inner ++ t
    = '<' :: (name ++ (attributes ++ '>' :: (inner ++ '<' :: '/' :: (name ++ '>' :: t))))
  := by
  simp [elementText]

/-- Every element is written with some character. -/
theorem elementText_ne_nil (name attributes inner : Text) :
  elementText name attributes inner ≠ []
  := by
  simp [elementText]

namespace Element

theorem spoken?_cons (t : Text) :
  spoken? ('<' :: t)
    = ((spokenNamed? t "action").or (spokenNamed? t "say")).or (spokenNamed? t "dialogue")
  := by
  simp only [spoken?, spokenNames, List.findSome?_cons, List.findSome?_nil]
  cases spokenNamed? t "action" <;> cases spokenNamed? t "say" <;>
    cases spokenNamed? t "dialogue" <;> rfl

theorem field?_cons (t : Text) :
  field? ('<' :: t)
    = ((fieldNamed? t "speaker").or (fieldNamed? t "emotion")).or (fieldNamed? t "text")
  := by
  simp only [field?, fieldNames, List.findSome?_cons, List.findSome?_nil]
  cases fieldNamed? t "speaker" <;> cases fieldNamed? t "emotion" <;>
    cases fieldNamed? t "text" <;> rfl

/-- No element of a name is read where another letter stands. -/
theorem spokenNamed?_of_not {a c : Char} (h : TagName.spells a c = false) (name t : Text) :
  spokenNamed? (c :: t) (a :: name) = none
  := by
  simp [spokenNamed?, TagName.take?_cons_of_not h]

/-- No field of a name is read where another letter stands. -/
theorem fieldNamed?_of_not {a c : Char} (h : TagName.spells a c = false) (name t : Text) :
  fieldNamed? (c :: t) (a :: name) = none
  := by
  simp [fieldNamed?, TagName.take?_cons_of_not h]

/-- No element is read where no opening angle bracket stands. -/
theorem spoken?_of_ne {c : Char} (hc : c ≠ '<') (t : Text) :
  spoken? (c :: t) = none
  := by
  unfold spoken?
  split
  · next h => exact absurd (List.cons.inj h).1 hc
  · rfl

theorem choice?_of_ne {c : Char} (hc : c ≠ '<') (t : Text) :
  choice? (c :: t) = none
  := by
  unfold choice?
  split
  · next h => exact absurd (List.cons.inj h).1 hc
  · rfl

/-- The body of an element ends at a closing tag that is taken for a repetition of the opening
one. -/
theorem until?_closingSame {spelling ending inner t : Text} (hi : '<' ∉ inner)
    (hc : TagName.closingSame? spelling ('<' :: '/' :: (ending ++ '>' :: t)) = some t) :
  Text.until? (TagName.closingSame? spelling) (inner ++ '<' :: '/' :: (ending ++ '>' :: t))
    = some (inner, t)
  := by
  apply Text.until?_append
  · intro d hd r
    apply TagName.closingSame?_of_ne
    rintro rfl
    apply hi hd
  · apply hc

/-- An element of a name is read when its closing tag is taken for a repetition of the opening
one. -/
theorem spokenNamed?_of_spelled {name spelling ending attributes inner t : Text}
    (hs : TagName.Spelled name spelling) (ha : '>' ∉ attributes)
    (hw : ∀ u, endsWord (attributes ++ '>' :: u) = true) (hi : '<' ∉ inner)
    (hc : TagName.closingSame? spelling ('<' :: '/' :: (ending ++ '>' :: t)) = some t) :
  spokenNamed?
      (spelling ++ (attributes ++ '>' :: (inner ++ '<' :: '/' :: (ending ++ '>' :: t)))) name
    = some (⟨spelling, attributes, inner⟩, t)
  := by
  simp [spokenNamed?, TagName.take?_of_spelled hs, hw, Text.cutAt?_mid ha,
    until?_closingSame hi hc]

/-- A written element of a name is read. -/
theorem spokenNamed?_written {name attributes inner : Text} (hn : TagName.Spelled name name)
    (ha : '>' ∉ attributes) (hw : ∀ u, endsWord (attributes ++ '>' :: u) = true)
    (hi : '<' ∉ inner) (t : Text) :
  spokenNamed? (name ++ (attributes ++ '>' :: (inner ++ '<' :: '/' :: (name ++ '>' :: t)))) name
    = some (⟨name, attributes, inner⟩, t)
  := spokenNamed?_of_spelled hn ha hw hi (TagName.closingSame?_append _ _)

/-- A written field of a name is read. -/
theorem fieldNamed?_written {name inner : Text} (hn : TagName.Spelled name name)
    (hi : '<' ∉ inner) (t : Text) :
  fieldNamed? (name ++ '>' :: (inner ++ '<' :: '/' :: (name ++ '>' :: t))) name
    = some (⟨name, [], inner⟩, t)
  := by
  simp [fieldNamed?, TagName.take?_of_spelled hn, TagName.tagEnd?_cons,
    until?_closingSame hi (TagName.closingSame?_append _ _)]

/-- A beat as an element. -/
def ofBeat : Beat → Element
  | .action expression text => ⟨"action", attributeText "expression" expression, text⟩
  | .say text => ⟨"say", [], text⟩

/-- No angle bracket stands in a written attribute. -/
theorem notMem_attributeText {name value : Text} {c : Char} (hc : c = '<' ∨ c = '>')
    (hn : c ∉ name) (hv : c ∉ value) :
  c ∉ attributeText name value
  := by
  simp only [attributeText, List.mem_append, List.mem_cons, List.not_mem_nil, or_false, not_or]
  obtain rfl | rfl := hc
  · exact ⟨⟨⟨⟨by decide, hn⟩, by decide, by decide⟩, hv⟩, by decide⟩
  · exact ⟨⟨⟨⟨by decide, hn⟩, by decide, by decide⟩, hv⟩, by decide⟩

/-- A plain beat is read. -/
theorem spoken?_beat {b : Beat} (h : b.IsPlain) (t : Text) :
  spoken? (b.print ++ t) = some (ofBeat b, t)
  := by
  cases b with
  | action expression text =>
      obtain ⟨hv, ht⟩ := h
      have ha : '>' ∉ attributeText "expression" expression :=
        notMem_attributeText (Or.inr rfl) (by decide) hv.noClose
      rw [Beat.print, elementText_append, spoken?_cons,
        spokenNamed?_written (TagName.Spelled.refl (by decide)) ha (fun u => rfl) ht t]
      rfl
  | say text =>
      rw [Beat.print, elementText_append, spoken?_cons,
        spokenNamed?_written (TagName.Spelled.refl (by decide)) (by simp) (fun u => rfl) h t]
      have ha : spokenNamed? (("say" : Text) ++ ([] ++ '>' :: (text ++ '<' :: '/'
          :: (("say" : Text) ++ '>' :: t)))) "action" = none :=
        spokenNamed?_of_not (a := 'a') (c := 's') (by decide) _ _
      rw [ha]
      rfl

/-- The elements of a plain scene are its beats. -/
theorem collect_beats {lead : Text} {beats : List (Beat × Text)} (hlead : '<' ∉ lead)
    (h : ∀ b ∈ beats, b.1.IsPlain ∧ '<' ∉ b.2) :
  Text.collect spoken? (lead ++ beats.flatMap fun b => b.1.print ++ b.2)
    = beats.map fun b => ofBeat b.1
  := by
  apply Text.collect_parts
  · exact fun c hc r => spoken?_of_ne hc r
  · exact fun b hb t => spoken?_beat (h b hb).1 t
  · intro b _
    cases b.1 <;> apply elementText_ne_nil
  · apply hlead
  · exact fun b hb => (h b hb).2

/-- A written field is read. -/
theorem field?_written {name inner : Text} (hn : name ∈ fieldNames) (hi : '<' ∉ inner)
    (t : Text) :
  field? (elementText name [] inner ++ t) = some (⟨name, [], inner⟩, t)
  := by
  have hs : TagName.Spelled name name := by
    apply TagName.Spelled.refl
    revert name
    decide
  have hr := fieldNamed?_written hs hi t
  rw [elementText_append, List.nil_append, field?_cons]
  simp only [fieldNames, List.mem_cons, List.not_mem_nil, or_false] at hn
  obtain rfl | rfl | rfl := hn
  · rw [hr]
    rfl
  · have h₁ (u : Text) : fieldNamed? (("emotion" : Text) ++ u) "speaker" = none :=
      fieldNamed?_of_not (a := 's') (c := 'e') (by decide) _ _
    rw [hr, h₁]
    rfl
  · have h₁ (u : Text) : fieldNamed? (("text" : Text) ++ u) "speaker" = none :=
      fieldNamed?_of_not (a := 's') (c := 't') (by decide) _ _
    have h₂ (u : Text) : fieldNamed? (("text" : Text) ++ u) "emotion" = none :=
      fieldNamed?_of_not (a := 'e') (c := 't') (by decide) _ _
    rw [hr, h₁, h₂]
    rfl

/-- The fields of a plain record are its three texts. -/
theorem collect_fields {speaker emotion text : Text} (hs : '<' ∉ speaker) (he : '<' ∉ emotion)
    (ht : '<' ∉ text) :
  Text.collect field? (elementText "speaker" [] speaker ++ elementText "emotion" [] emotion
      ++ elementText "text" [] text)
    = [⟨"speaker", [], speaker⟩, ⟨"emotion", [], emotion⟩, ⟨"text", [], text⟩]
  := by
  rw [List.append_assoc,
    Text.collect_take (elementText_ne_nil _ _ _) (field?_written (by decide) hs _),
    Text.collect_take (elementText_ne_nil _ _ _) (field?_written (by decide) he _),
    ← List.append_nil (elementText "text" [] text),
    Text.collect_take (elementText_ne_nil _ _ _) (field?_written (by decide) ht _),
    Text.collect_nil]

/-- The attributes of an option. -/
def optionAttributes (c : Choice) : List (Text × Text) :=
  ("id", c.id) :: if c.disabled then [("disabled", "true")] else []

/-- A choice as an element. -/
def ofChoice (c : Choice) : Element :=
  ⟨"choice", Attribute.written (optionAttributes c), c.text⟩

/-- A choice is written with its id, and a mark if it is disabled. -/
theorem written_optionAttributes (c : Choice) :
  Attribute.written (optionAttributes c)
    = attributeText "id" c.id ++ (if c.disabled then attributeText "disabled" "true" else [])
  := by
  cases hc : c.disabled <;> simp [optionAttributes, Attribute.written, hc]

/-- A plain choice is read. -/
theorem choice?_written {c : Choice} (h : c.IsPlain) (t : Text) :
  choice? (c.print ++ t) = some (ofChoice c, t)
  := by
  obtain ⟨hv, ht⟩ := h
  have ha : '>' ∉ Attribute.written (optionAttributes c) := by
    have hid : '>' ∉ attributeText "id" c.id :=
      notMem_attributeText (Or.inr rfl) (by decide) hv.noClose
    have hdis : '>' ∉ attributeText "disabled" "true" := by decide
    rw [written_optionAttributes, List.mem_append, not_or]
    split_ifs
    · exact ⟨hid, hdis⟩
    · exact ⟨hid, List.not_mem_nil⟩
  have hs : TagName.Spelled ("choice" : Text) ("choice" : Text) :=
    TagName.Spelled.refl (by decide)
  have hw (u : Text) : endsWord (Attribute.written (optionAttributes c) ++ '>' :: u) = true := rfl
  have hu : Text.until? (fun u => (TagName.closing? "choice" u).map (·.2))
      (c.text ++ '<' :: '/' :: (("choice" : Text) ++ '>' :: t)) = some (c.text, t) := by
    apply Text.until?_append
    · intro d hd r
      rw [TagName.closing?_of_ne _ _]
      · rfl
      · rintro rfl
        apply ht hd
    · rw [TagName.closing?_of_spelled hs]
      rfl
  rw [Choice.print, ← written_optionAttributes, elementText_append]
  simp only [choice?, Option.bind_eq_bind, TagName.take?_of_spelled hs, Option.bind_some, hw,
    guard, if_true, Option.pure_def, Text.cutAt?_mid ha, hu]
  rfl

/-- The elements of a plain list of choices are its options. -/
theorem collect_options {lead : Text} {options : List (Choice × Text)} (hlead : '<' ∉ lead)
    (h : ∀ o ∈ options, o.1.IsPlain ∧ '<' ∉ o.2) :
  Text.collect choice? (lead ++ options.flatMap fun o => o.1.print ++ o.2)
    = options.map fun o => ofChoice o.1
  := by
  apply Text.collect_parts
  · exact fun c hc r => choice?_of_ne hc r
  · exact fun o ho t => choice?_written (h o ho).1 t
  · exact fun o _ => elementText_ne_nil _ _ _
  · apply hlead
  · exact fun o ho => (h o ho).2

end Element

end BranchingStory
