import BranchingStory.Proofs.Markup.Sight
import BranchingStory.Proofs.Markup.Written

/-!
# Scanning what is written

The scanner finds every passage of a plain script, each as the block that the passage is
written as, and leaves the text behind the last of them.  The parts inside a passage are
quiet: none of them opens or closes a block.
-/

namespace BranchingStory

/-! ### Names that are no kind's -/

/-- A text that begins like no name of a kind of block. -/
def BlockKind.Apart (t : Text) : Prop :=
  ∀ k ∈ BlockKind.all, ¬ k.name <+: t.map TagName.letter ∧ ¬ t.map TagName.letter <+: k.name

instance (t : Text) : Decidable (BlockKind.Apart t) :=
  inferInstanceAs (Decidable (∀ k ∈ BlockKind.all, _))

namespace BlockKind.Apart

/-- No name of a kind is read where a text apart from all of them stands. -/
theorem take?_eq_none {t : Text} (h : BlockKind.Apart t) (k : BlockKind) (u : Text) :
  TagName.take? k.name (t ++ u) = none
  := by
  obtain ⟨h₁, h₂⟩ := h k (by cases k <;> decide)
  apply Option.eq_none_iff_forall_ne_some.mpr
  rintro ⟨spelling, rest⟩ ht
  obtain ⟨he, hs⟩ := TagName.take?_eq_some_iff.mp ht
  have hl := hs.map_letter (BlockKind.letters_name k)
  have hp : k.name <+: t.map TagName.letter ++ u.map TagName.letter := by
    rw [← List.map_append, he, List.map_append, hl]
    apply List.prefix_append
  obtain h | h := List.prefix_or_prefix_of_prefix hp (List.prefix_append _ _)
  · apply h₁ h
  · apply h₂ h

/-- No block opens where a text apart from all names stands. -/
theorem at?_eq_none {t : Text} (h : BlockKind.Apart t) (u : Text) :
  Opener.at? ('<' :: (t ++ u)) = none
  := by
  apply Option.eq_none_iff_forall_ne_some.mpr
  intro o ho
  obtain ⟨he, hs, -⟩ := Opener.at?_eq_some_iff.mp ho
  have ht := h.take?_eq_none o.kind u
  rw [(List.cons.inj he).2, TagName.take?_of_spelled hs] at ht
  simp at ht

/-- No block closes where a text apart from all names stands. -/
theorem closing?_eq_none {t : Text} (h : BlockKind.Apart t) (k : BlockKind) (u : Text) :
  TagName.closing? k.name ('<' :: '/' :: (t ++ u)) = none
  := by
  simp [TagName.closing?, h.take?_eq_none k u]

end BlockKind.Apart

/-! ### Quiet texts -/

/-- A text that neither opens nor closes a block, whatever follows it: the ending of a block
that it stands in is the ending of the text behind it. -/
def Quiet (u : Text) : Prop :=
  ∀ (k : BlockKind) (t : Text), Ending.of k (u ++ t) =
    match Ending.of k t with
    | .closed inner closing rest => .closed (u ++ inner) closing rest
    | e => e

namespace Quiet

theorem nil :
  Quiet []
  := by
  intro k t
  cases h : Ending.of k t <;> simp [h]

/-- Quiet texts behind one another are quiet. -/
theorem append {u v : Text} (hu : Quiet u) (hv : Quiet v) :
  Quiet (u ++ v)
  := by
  intro k t
  rw [List.append_assoc, hu, hv]
  cases Ending.of k t <;> simp

/-- A character where no tag begins is quiet. -/
theorem cons {c : Char} {u : Text} (ho : ∀ t, Opener.at? (c :: (u ++ t)) = none)
    (hc : ∀ (k : BlockKind) t, TagName.closing? k.name (c :: (u ++ t)) = none) (hu : Quiet u) :
  Quiet (c :: u)
  := by
  intro k t
  rw [List.cons_append, Ending.of, hc, ho, hu]
  cases Ending.of k t <;> rfl

theorem cons_of_ne {c : Char} {u : Text} (h : c ≠ '<') (hu : Quiet u) :
  Quiet (c :: u)
  := by
  apply hu.cons
  · exact fun t => Opener.at?_of_ne h _
  · exact fun k t => TagName.closing?_of_ne k.name h _

/-- A text without an opening angle bracket is quiet. -/
theorem of_notMem {u : Text} (h : '<' ∉ u) :
  Quiet u
  := by
  induction u with
  | nil => apply nil
  | cons c u ih =>
      rw [List.mem_cons, not_or] at h
      apply cons_of_ne (Ne.symm h.1) (ih h.2)

/-- A written element whose name, also with what stands behind it, is apart from those of
blocks is quiet. -/
theorem element (a : Char) (name : Text) (as : List (Text × Text)) {inner : Text} (ha : a ≠ '/')
    (hspace : BlockKind.Apart (a :: name ++ [' '])) (hend : BlockKind.Apart (a :: name ++ ['>']))
    (hname : '<' ∉ a :: name)
    (has : '<' ∉ Attribute.written as) (hi : '<' ∉ inner) :
  Quiet (elementText (a :: name) (Attribute.written as) inner)
  := by
  obtain ⟨c, u, hc, hu⟩ := Attribute.written_front as
  have hclose : Quiet ('<' :: '/' :: (a :: name ++ ['>'])) := by
    apply cons
    · intro t
      have hs : BlockKind.Apart ['/'] := by decide
      apply hs.at?_eq_none (a :: name ++ ['>'] ++ t)
    · intro k t
      apply hend.closing?_eq_none k t
    · apply cons_of_ne (by decide)
      apply of_notMem
      simpa using hname
  have hopen : Quiet ('<' :: (a :: name ++ (Attribute.written as ++ ['>']) ++ inner
      ++ '<' :: '/' :: (a :: name ++ ['>']))) := by
    apply cons
    · intro t
      have hapart : BlockKind.Apart (a :: name ++ [c]) := by
        obtain rfl | hc := List.mem_cons.mp hc
        · apply hspace
        · rw [List.mem_singleton.mp hc]
          apply hend
      have ht := hapart.at?_eq_none (u ++ inner ++ '<' :: '/' :: (a :: name ++ ['>']) ++ t)
      simpa [hu] using ht
    · intro k t
      simp [TagName.closing?, ha]
    · apply append _ hclose
      apply of_notMem
      simp only [List.mem_append, not_or]
      exact ⟨⟨hname, has, by decide⟩, hi⟩
  simpa [elementText] using hopen

/-- Quiet parts, with text behind each of them, are quiet. -/
theorem flatMap {α : Type} {write : α → Text} {parts : List (α × Text)}
    (h : ∀ p ∈ parts, Quiet (write p.1) ∧ '<' ∉ p.2) :
  Quiet (parts.flatMap fun p => write p.1 ++ p.2)
  := by
  induction parts with
  | nil => apply nil
  | cons p parts ih =>
      obtain ⟨hw, hg⟩ := h p List.mem_cons_self
      rw [List.flatMap_cons]
      apply append (append hw (of_notMem hg))
      apply ih
      exact fun q hq => h q (List.mem_cons_of_mem _ hq)

/-- The markup of a plain beat is quiet. -/
theorem beat {b : Beat} (h : b.IsPlain) :
  Quiet b.print
  := by
  cases b with
  | action expression text =>
      have ha : '<' ∉ Attribute.written [("expression", expression)] := by
        simpa [Attribute.written] using
          Element.notMem_attributeText (Or.inl rfl) (by decide) h.1.noOpen
      have hq := element 'a' ['c', 't', 'i', 'o', 'n'] _ (by decide) (by decide) (by decide)
        (by decide) ha h.2
      rw [Attribute.written, List.flatMap_singleton] at hq
      apply hq
  | say text =>
      apply element 's' ['a', 'y'] [] (by decide) (by decide) (by decide) (by decide)
        (by decide) h

/-- The markup of a plain choice is quiet. -/
theorem choice {c : Choice} (h : c.IsPlain) :
  Quiet c.print
  := by
  have ha : '<' ∉ Attribute.written (Element.optionAttributes c) := by
    have hid : '<' ∉ attributeText "id" c.id :=
      Element.notMem_attributeText (Or.inl rfl) (by decide) h.1.noOpen
    have hdis : '<' ∉ attributeText "disabled" "true" := by decide
    rw [Element.written_optionAttributes, List.mem_append, not_or]
    split_ifs
    · exact ⟨hid, hdis⟩
    · exact ⟨hid, List.not_mem_nil⟩
  rw [Choice.print, ← Element.written_optionAttributes]
  apply element 'c' ['h', 'o', 'i', 'c', 'e'] _ (by decide) (by decide) (by decide)
    (by decide) ha h.2

/-- A field is quiet. -/
theorem field {name inner : Text} (hn : name ∈ Element.fieldNames) (hi : '<' ∉ inner) :
  Quiet (elementText name [] inner)
  := by
  simp only [Element.fieldNames, List.mem_cons, List.not_mem_nil, or_false] at hn
  obtain rfl | rfl | rfl := hn
  · apply element 's' ['p', 'e', 'a', 'k', 'e', 'r'] [] (by decide)
      (by decide) (by decide) (by decide) (by decide) hi
  · apply element 'e' ['m', 'o', 't', 'i', 'o', 'n'] [] (by decide)
      (by decide) (by decide) (by decide) (by decide) hi
  · apply element 't' ['e', 'x', 't'] [] (by decide) (by decide)
      (by decide) (by decide) (by decide) hi

end Quiet

/-! ### The block of a passage -/

namespace BlockKind

/-- The name of a kind as it is written in tags. -/
def tagName : BlockKind → Text
  | narrator => "Narrator"
  | k => k.name

/-- The name that is written spells the name of the kind. -/
theorem spelled_tagName (k : BlockKind) :
  TagName.Spelled k.name k.tagName
  := by
  have h : TagName.take? k.name k.tagName = some (k.tagName, []) := by
    cases k <;> decide
  apply (TagName.take?_eq_some_iff.mp h).2

/-- The name that is written becomes the name of the kind in small letters. -/
theorem lower_tagName (k : BlockKind) :
  Text.lower k.tagName = k.name
  := by
  cases k <;> decide

end BlockKind

namespace Passage

/-- The kind of block that a passage is written as. -/
def kind : Passage → BlockKind
  | narration _ => .narrator
  | speech _ _ _ => .character
  | scene _ _ _ => .character
  | record _ _ _ => .segment
  | choices _ _ => .choices

/-- The attributes in the opening tag of a passage. -/
def attributes : Passage → List (Text × Text)
  | speech name emotion _ => [("name", name), ("emotion", emotion)]
  | scene name _ _ => [("name", name)]
  | _ => []

/-- What stands between the tags of a passage. -/
def inner : Passage → Text
  | narration text => text
  | speech _ _ text => text
  | scene _ lead beats => lead ++ beats.flatMap fun b => b.1.print ++ b.2
  | record speaker emotion text =>
    elementText "speaker" [] speaker ++ elementText "emotion" [] emotion
      ++ elementText "text" [] text
  | choices lead options => lead ++ options.flatMap fun o => o.1.print ++ o.2

/-- The block that a passage is written as. -/
def block (p : Passage) : Block :=
  ⟨p.kind, '<' :: p.kind.tagName ++ Attribute.written p.attributes ++ ['>'], p.inner,
    '<' :: '/' :: (p.kind.tagName ++ ['>'])⟩

/-- A passage is printed as an element of its kind. -/
theorem print_eq (p : Passage) :
  p.print = elementText p.kind.tagName (Attribute.written p.attributes) p.inner
  := by
  cases p with
  | speech name emotion text =>
      rw [attributes, Attribute.written, List.flatMap_cons, List.flatMap_singleton]
      rfl
  | scene name lead beats =>
      rw [attributes, Attribute.written, List.flatMap_singleton]
      rfl
  | _ => rfl

/-- The markup of a passage is the text of its block. -/
theorem print_eq_text (p : Passage) :
  p.print = p.block.text
  := by
  simp [print_eq, elementText, block, Block.text]

/-- The values of the attributes of a plain passage have no angle brackets. -/
theorem IsPlain.notMem_attributes {p : Passage} (h : p.IsPlain) {c : Char}
    (hc : c = '<' ∨ c = '>') :
  c ∉ Attribute.written p.attributes
  := by
  have hv {t : Text} (ht : IsValue t) : c ∉ t := by
    obtain rfl | rfl := hc
    · apply ht.noOpen
    · apply ht.noClose
  have hname : c ∉ ("name" : Text) := by
    obtain rfl | rfl := hc <;> decide
  have hemotion : c ∉ ("emotion" : Text) := by
    obtain rfl | rfl := hc <;> decide
  cases p with
  | speech name emotion text =>
      simp only [attributes, Attribute.written, List.flatMap_cons, List.flatMap_nil,
        List.append_nil, List.mem_append, not_or]
      exact ⟨Element.notMem_attributeText hc hname (hv h.1),
        Element.notMem_attributeText hc hemotion (hv h.2.1)⟩
  | scene name lead beats =>
      simp only [attributes, Attribute.written, List.flatMap_cons, List.flatMap_nil,
        List.append_nil]
      apply Element.notMem_attributeText hc hname (hv h.1)
  | _ => apply List.not_mem_nil

/-- What stands inside a plain passage is quiet. -/
theorem IsPlain.quiet_inner {p : Passage} (h : p.IsPlain) :
  Quiet p.inner
  := by
  cases p with
  | narration text => apply Quiet.of_notMem h
  | speech name emotion text => apply Quiet.of_notMem h.2.2
  | scene name lead beats =>
      apply (Quiet.of_notMem h.2.1).append
      apply Quiet.flatMap
      exact fun b hb => ⟨Quiet.beat (h.2.2.2 b hb).1, (h.2.2.2 b hb).2⟩
  | record speaker emotion text =>
      apply ((Quiet.field _ h.1).append (Quiet.field _ h.2.1)).append (Quiet.field _ h.2.2)
      all_goals decide
  | choices lead options =>
      apply (Quiet.of_notMem h.1).append
      apply Quiet.flatMap
      exact fun o ho => ⟨Quiet.choice (h.2 o ho).1, (h.2 o ho).2⟩

/-- The body of a plain passage ends at its closing tag. -/
theorem IsPlain.ending {p : Passage} (h : p.IsPlain) (r : Text) :
  Ending.of p.kind (p.inner ++ (p.block.closing ++ r)) = .closed p.inner p.block.closing r
  := by
  have hc : TagName.closing? p.kind.name (p.block.closing ++ r) = some (p.block.closing, r) := by
    simpa [block] using TagName.closing?_of_spelled p.kind.spelled_tagName r
  have he : Ending.of p.kind (p.block.closing ++ r) = .closed [] p.block.closing r := by
    rw [block, List.cons_append] at hc ⊢
    rw [Ending.of, hc]
  rw [h.quiet_inner, he]
  simp

/-- The opener that a passage is written with. -/
def opener (p : Passage) (r : Text) : Opener :=
  ⟨p.kind, p.kind.tagName,
    Attribute.written p.attributes ++ '>' :: (p.inner ++ (p.block.closing ++ r))⟩

theorem at?_print (p : Passage) (r : Text) :
  Opener.at? (p.print ++ r) = some (p.opener r)
  := by
  apply Opener.at?_eq_some_iff.mpr
  refine ⟨by simp [print_eq_text, Block.text, block, opener], p.kind.spelled_tagName, ?_⟩
  cases p <;> rfl

/-- A plain passage behind text that is no markup is the first thing that is met. -/
theorem IsPlain.sight {p : Passage} (h : p.IsPlain) {gap : Text} (hgap : '<' ∉ gap) (r : Text) :
  Sight.of (gap ++ (p.print ++ r)) = .finishes p.block r
  := by
  have hfind : Opener.find? (gap ++ (p.print ++ r)) = some (p.opener r) := by
    have hat := p.at?_print r
    rw [Opener.find?_skip hgap]
    rw [print_eq, elementText_append] at hat ⊢
    rw [Opener.find?, hat, Option.some_or]
  have hcut : Text.cutAt? '>' (p.opener r).rest
      = some (Attribute.written p.attributes, p.inner ++ (p.block.closing ++ r)) :=
    Text.cutAt?_mid (h.notMem_attributes (Or.inr rfl)) _
  have hattr : (Attribute.written p.attributes).contains '<' = false := by
    simpa using h.notMem_attributes (Or.inl rfl)
  have hreg : (p.opener r).isRegular = true := by
    simp [Opener.isRegular, opener, BlockKind.lower_tagName]
  simp only [Sight.of, hfind, Sight.ofOpener, hcut, hattr, hreg]
  have he : Ending.of (p.opener r).kind (p.inner ++ (p.block.closing ++ r))
      = .closed p.inner p.block.closing r := h.ending r
  rw [he]
  rfl

end Passage

/-! ### Scripts -/

/-- Nothing is met in a text that is no markup. -/
theorem Sight.of_notMem {t : Text} (h : '<' ∉ t) :
  Sight.of t = .waits
  := by
  have hf := Opener.find?_skip h []
  rw [List.append_nil] at hf
  rw [Sight.of, hf]
  rfl

/-- The scan of a plain script finds the block of every passage and leaves the text behind
the last. -/
theorem Script.scan_print {s : Script} (h : s.IsPlain) :
  Block.scan s.print = ⟨s.parts.map (·.1.block), s.tail, false⟩
  := by
  obtain ⟨lead, parts⟩ := s
  obtain ⟨hlead, hparts⟩ := h
  simp only [print, tail, Block.scan] at hlead hparts ⊢
  induction parts generalizing lead with
  | nil =>
      rw [List.flatMap_nil, List.append_nil, Block.scanFrom_eq, Sight.of_notMem hlead]
      rfl
  | cons p parts ih =>
      obtain ⟨hp, hgap⟩ := hparts p List.mem_cons_self
      have hr := ih p.2 hgap fun q hq => hparts q (List.mem_cons_of_mem _ hq)
      rw [List.flatMap_cons, List.append_assoc, Block.scanFrom_eq, hp.sight hlead]
      simp only [hr]
      cases parts <;> rfl

end BranchingStory
