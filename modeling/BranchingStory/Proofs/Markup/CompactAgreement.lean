import BranchingStory.Proofs.Markup.CompactLayout
import BranchingStory.Proofs.Markup.IrregularName
import BranchingStory.Proofs.Markup.Written
import BranchingStory.Proofs.Text.CodeSet
import BranchingStory.Proofs.Text.Trim

/-!
# Compact scenes read as other scenes

A character block in compact form could as well be read as a block of actions and lines.
When its name and its expression hold no closing angle bracket and its names are spelled in
ASCII letters, both ways of reading give out the same segments and leave the same parser:
`Parser.takeBlock_compact`.
-/

namespace BranchingStory

/-! ### Blanks and letters -/

namespace Attribute

/-- A blank does not stand in the name of an attribute. -/
theorem isNameChar_of_isBlank {c : Char} (h : isBlank c = true) :
  isNameChar c = false
  := by
  have hblanks : ∀ n ∈ CodeSet.codesBetween blankSet.flips, isNameChar (Char.ofNat n) = false := by
    decide +kernel
  have hc := hblanks _ (CodeSet.mem_codesBetween rfl h)
  rwa [Char.ofNat_toNat] at hc

end Attribute

namespace TagName

/-- A letter of ASCII may stand in the name of an attribute and is not stray. -/
theorem of_isAlpha {c : Char} (h : c.isAlpha = true) :
  Attribute.isNameChar c = true ∧ c ∉ strayLetters
  := by
  have hletters : ∀ n < 123, (Char.ofNat n).isAlpha = true →
      Attribute.isNameChar (Char.ofNat n) = true ∧ Char.ofNat n ∉ strayLetters := by
    decide
  have hlt : c.toNat < 123 := by
    have hle : c.val ≤ 90 ∨ c.val ≤ 122 := by
      obtain h | h := (Bool.or_eq_true c.isUpper c.isLower).mp h
      · exact Or.inl (of_decide_eq_true h).2
      · exact Or.inr (of_decide_eq_true ((Bool.and_eq_true _ _).mp h).2)
    rw [UInt32.le_iff_toNat_le, UInt32.le_iff_toNat_le] at hle
    have hn : c.val.toNat ≤ 90 ∨ c.val.toNat ≤ 122 := hle
    have hc : c.val.toNat = c.toNat := rfl
    omega
  have hc := hletters c.toNat hlt
  rw [Char.ofNat_toNat] at hc
  apply hc h

variable {name spelling ending : Text}

/-- Two spellings of a name without stray letters are taken for repetitions of one another. -/
theorem afterSame?_of_spelled (hs : Spelled name spelling) (he : Spelled name ending)
    (hstray : ∀ c ∈ spelling, c ∉ strayLetters) (hstray' : ∀ c ∈ ending, c ∉ strayLetters)
    (t : Text) :
  afterSame? spelling (ending ++ t) = some t
  := by
  induction hs generalizing ending with
  | nil =>
      cases he
      rfl
  | cons hc _ ih =>
      cases he with
      | cons hc' he =>
          rw [List.forall_mem_cons] at hstray hstray'
          rw [List.cons_append, afterSame?, plainForm_of_spells hc hstray.1,
            plainForm_of_spells hc' hstray'.1, if_pos rfl]
          apply ih he hstray.2 hstray'.2

/-- A closing tag that spells a name without stray letters is taken for a repetition of any
such spelling. -/
theorem closingSame?_of_spelled (hs : Spelled name spelling) (he : Spelled name ending)
    (hstray : ∀ c ∈ spelling, c ∉ strayLetters) (hstray' : ∀ c ∈ ending, c ∉ strayLetters)
    (t : Text) :
  closingSame? spelling ('<' :: '/' :: (ending ++ '>' :: t)) = some t
  := by
  simp [closingSame?, afterSame?_of_spelled hs he hstray hstray', tagEnd?_cons]

end TagName

/-! ### Compact scenes as actions and lines -/

namespace Compact

namespace Tag

variable {name key : Text} {g : Tag name key}

/-- No closing angle bracket stands in the attribute of a tag whose value has none. -/
theorem notMem_attributes (hkey : '>' ∉ key) (hv : '>' ∉ g.value) :
  '>' ∉ g.attributes
  := by
  have hblank : isBlank '>' = false := by decide
  have hgap : '>' ∉ g.gap := fun h => by simpa [hblank] using g.isBlank_gap _ h
  have htail : '>' ∉ g.tail := fun h => by simpa [hblank] using g.isBlank_tail _ h
  have hk := g.keySpelled.notMem (Or.inr rfl) hkey
  simp [attributes, hgap, htail, hk, hv]

/-- A blank comes first in the attribute of a tag, and it ends the name. -/
theorem endsWord_attributes (t : Text) :
  endsWord (g.attributes ++ t) = true
  := by
  cases hgap : g.gap with
  | nil => exact absurd hgap g.gap_ne_nil
  | cons c gap =>
      have hc := Attribute.isNameChar_of_isBlank (g.isBlank_gap c (by simp [hgap]))
      simp only [Attribute.isNameChar, Bool.or_eq_false_iff] at hc
      simp [attributes, hgap, endsWord, hc.1]

/-- The attribute of a tag has its value. -/
theorem get?_attributes (hne : key ≠ [])
    (hkey : (key.all fun a => lowerChar a = [a] ∧ a ≠ 'k') = true)
    (hletters : ∀ c ∈ g.keySpelling, c.isAlpha = true) :
  Attribute.get? g.attributes key = some g.value
  := by
  have hblank (u : Text) (hu : ∀ c ∈ u, isBlank c = true) (t : Text) :
      Text.collect Attribute.at? (u ++ t) = Text.collect Attribute.at? t :=
    Text.collect_skip_of_head
      (fun c hc r => Attribute.at?_of_not (Attribute.isNameChar_of_isBlank (hu c hc)) r) t
  have hspelling : g.keySpelling ≠ [] := by
    intro h
    have hl := g.keySpelled.length_eq
    rw [h, List.length_nil] at hl
    exact hne (List.length_eq_zero_iff.mp hl.symm)
  have hread := Attribute.at?_written hspelling
    (fun c hc => (TagName.of_isAlpha (hletters c hc)).1) g.noQuote g.tail
  have hall : Attribute.all g.attributes = [(g.keySpelling, g.value)] := by
    have htail := hblank g.tail g.isBlank_tail []
    rw [List.append_nil, Text.collect_nil] at htail
    have hsplit : g.keySpelling ++ '=' :: '"' :: (g.value ++ '"' :: g.tail)
        = (g.keySpelling ++ '=' :: '"' :: (g.value ++ ['"'])) ++ g.tail := by
      simp
    rw [Attribute.all, attributes, hblank _ g.isBlank_gap, hsplit, Text.collect_take, htail]
    · simp
    · rw [← hsplit, hread]
  have hlower : Text.lower g.keySpelling = key :=
    TagName.lowerFrom_of_spelled g.keySpelled hkey
      (fun c hc => (TagName.of_isAlpha (hletters c hc)).2) []
  simp [Attribute.get?, hall, hlower]

end Tag

namespace Layout

/-- The names of all tags and attributes are spelled in letters of ASCII. -/
def HasAsciiNames (l : Layout) : Prop :=
  ∀ n ∈ l.names, n.all Char.isAlpha = true

instance (l : Layout) : Decidable l.HasAsciiNames :=
  inferInstanceAs (Decidable (∀ n ∈ l.names, n.all Char.isAlpha = true))

variable {l : Layout}

/-- The elements of a layout as they are read from the inside of a block. -/
def elements (l : Layout) : List Element :=
  [⟨l.action.spelling, l.action.attributes, l.description⟩, ⟨l.say, [], l.speech⟩]

theorem HasAsciiNames.notStray (h : l.HasAsciiNames) {n : Text} (hn : n ∈ l.names) :
  ∀ c ∈ n, c ∉ TagName.strayLetters
  := fun c hc => (TagName.of_isAlpha (List.all_eq_true.mp (h n hn) c hc)).2

theorem notMem_of_isPlain {u : Text} (h : u.all isPlain = true) :
  '<' ∉ u
  := fun hm => absurd (List.all_eq_true.mp h _ hm) (by decide)

theorem notMem_of_spaces {u : Text} (h : isSpaces u = true) :
  '<' ∉ u
  := fun hm => absurd (List.all_eq_true.mp h _ hm) (by decide)

/-- The action of a layout is read as an element. -/
theorem spoken?_action (h : l.HasAsciiNames) (hv : '>' ∉ l.action.value) (t : Text) :
  Element.spoken? (l.actionText ++ t)
    = some (⟨l.action.spelling, l.action.attributes, l.description⟩, t)
  := by
  have hsplit : l.actionText ++ t = '<' :: (l.action.spelling ++ (l.action.attributes ++ '>' ::
      (l.description ++ '<' :: '/' :: (l.actionEnd ++ '>' :: t)))) := by
    simp [actionText, Tag.text]
  have hclosing := TagName.closingSame?_of_spelled l.action.spelled l.actionEnd_spelled
    (h.notStray (by simp [names])) (h.notStray (by simp [names])) t
  rw [hsplit, Element.spoken?_cons, Element.spokenNamed?_of_spelled l.action.spelled
    (Tag.notMem_attributes (by decide) hv) (fun u => Tag.endsWord_attributes _)
    (notMem_of_isPlain l.description_plain) hclosing]
  rfl

/-- The line of a layout is read as an element. -/
theorem spoken?_line (h : l.HasAsciiNames) (t : Text) :
  Element.spoken? (l.lineText ++ t) = some (⟨l.say, [], l.speech⟩, t)
  := by
  have hsplit : l.lineText ++ t
      = '<' :: (l.say ++ ([] ++ '>' :: (l.speech ++ '<' :: '/' :: (l.sayEnd ++ '>' :: t)))) := by
    simp [lineText]
  have hclosing := TagName.closingSame?_of_spelled l.say_spelled l.sayEnd_spelled
    (h.notStray (by simp [names])) (h.notStray (by simp [names])) t
  have hread := Element.spokenNamed?_of_spelled l.say_spelled (List.not_mem_nil (a := '>'))
    (fun u => rfl) (notMem_of_isPlain l.speech_plain) hclosing
  -- The first letter of the name tells a line from an action.
  have haction (u : Text) : Element.spokenNamed? (l.say ++ u) "action" = none := by
    have hs : TagName.Spelled ['s', 'a', 'y'] l.say := l.say_spelled
    obtain ⟨c, more, hc, -, hsay⟩ := List.forall₂_cons_left_iff.mp hs
    rw [TagName.spells_iff (by decide) (by decide)] at hc
    have hnot : TagName.spells 'a' c = false := by
      rw [← Bool.not_eq_true, TagName.spells_iff (by decide) (by decide), hc]
      decide
    rw [hsay]
    apply Element.spokenNamed?_of_not hnot
  rw [hsplit, Element.spoken?_cons, hread, haction]
  rfl

/-- The elements inside a block with a layout are its action and its line. -/
theorem collect_inner (h : l.HasAsciiNames) (hv : '>' ∉ l.action.value) :
  Text.collect Element.spoken? l.inner = l.elements
  := by
  have hskip (u t : Text) (hu : '<' ∉ u) :
      Text.collect Element.spoken? (u ++ t) = Text.collect Element.spoken? t :=
    Text.collect_skip_of_head
      (fun c hc r => Element.spoken?_of_ne (fun he => hu (he ▸ hc)) r) t
  have htrailing := hskip l.trailing [] (notMem_of_isPlain l.trailing_plain)
  rw [List.append_nil, Text.collect_nil] at htrailing
  rw [inner, hskip _ _ (notMem_of_spaces l.lead_spaces),
    Text.collect_take (by simp [actionText, Tag.text]) (spoken?_action h hv _),
    hskip _ _ (notMem_of_spaces l.gap_spaces),
    Text.collect_take (by simp [lineText]) (spoken?_line h _), htrailing]
  rfl

/-- What the block of a layout says by its action and its line is what its compact scene
says. -/
theorem ofScene_inner (h : l.HasAsciiNames) (hv : '>' ∉ l.action.value)
    (speaker opening : Text) :
  Utterance.ofScene speaker opening l.inner = Utterance.ofCompact speaker l.scene
  := by
  have haction : Text.lower l.action.spelling = "action" :=
    TagName.lowerFrom_of_spelled l.action.spelled (by decide) (h.notStray (by simp [names])) []
  have hsay : Text.lower l.say = "say" :=
    TagName.lowerFrom_of_spelled l.say_spelled (by decide) (h.notStray (by simp [names])) []
  have hvalue := Tag.get?_attributes (g := l.action) (by decide) (by decide)
    (List.all_eq_true.mp (h _ (by simp [names])))
  have hne : ("say" : Text) ≠ "action" := by decide
  rw [Utterance.ofScene, collect_inner h hv]
  simp only [elements, Utterance.ofElements, haction, hsay, if_true, if_neg hne,
    Element.attribute?, hvalue, Option.some_or, List.append_nil]
  rfl

end Layout

end Compact

/-! ### Blocks of a scan -/

namespace Block

/-- A block that begins with a whole opening tag and ends with a whole closing tag: no closing
angle bracket stands inside the first and no opening one inside the second. -/
structure IsTagged (b : Block) : Prop where
  opening : ∃ tag : Text, b.opening = '<' :: (tag ++ ['>']) ∧ '>' ∉ tag
  closing : ∃ tag : Text, b.closing = '<' :: (tag ++ ['>']) ∧ '<' ∉ tag

/-- The scanner takes a block from its opening tag to its closing tag. -/
theorem isTagged_of_finishes {t rest : Text} {b : Block} (h : Sight.of t = .finishes b rest) :
  b.IsTagged
  := by
  simp only [Sight.of] at h
  split at h
  · cases h
  · next o ho =>
    obtain ⟨v, -, hat, -⟩ := Opener.exists_of_find? ho
    obtain ⟨-, hs, -⟩ := Opener.at?_eq_some_iff.mp hat
    simp only [Sight.ofOpener] at h
    split at h
    · cases h
    · next attributes body hcut =>
      split_ifs at h
      cases hend : Ending.of o.kind body <;> simp only [hend, Sight.ofBody, reduceCtorEq] at h
      next inner closing rest' =>
      obtain ⟨rfl, -⟩ := Sight.finishes.inj h
      have hclosing := (Ending.of_eq_closed_iff.mp hend).closing
      have hlt := TagName.notMem_tail_of_closing? (o.kind.notMem_name (Or.inl rfl)) hclosing
      obtain ⟨spelling, blanks, -, -, rfl, -⟩ := TagName.closing?_eq_some_iff.mp hclosing
      refine ⟨⟨o.spelling ++ attributes, by simp, ?_⟩, ⟨'/' :: (spelling ++ blanks), by simp, ?_⟩⟩
      · rw [List.mem_append, not_or]
        exact ⟨hs.notMem (Or.inr rfl) (o.kind.notMem_name (Or.inr rfl)),
          (Text.cutAt?_eq_some_iff.mp hcut).2⟩
      · intro hm
        apply hlt
        rw [← List.append_assoc]
        apply List.mem_append_left _ hm

/-- Every block that a scan finishes is from its opening tag to its closing tag. -/
theorem isTagged_of_mem_scanFrom {kept cursor : Text} {b : Block}
    (h : b ∈ (scanFrom kept cursor).blocks) :
  b.IsTagged
  := by
  induction hn : cursor.length using Nat.strongRecOn generalizing kept cursor with
  | ind n ih =>
      subst hn
      rw [scanFrom_eq] at h
      cases hs : Sight.of cursor with
      | waits => simp [hs] at h
      | irregular => simp [hs] at h
      | passes rest =>
          rw [hs] at h
          apply ih _ (Sight.length_of_passes hs) h rfl
      | finishes b' rest =>
          simp only [hs, Scan.after, List.mem_append, List.mem_singleton] at h
          obtain rfl | h := h
          · apply isTagged_of_finishes hs
          · apply ih _ (Sight.length_of_finishes hs) h rfl

/-- What a block says is between the first closing angle bracket and the last opening one. -/
theorem IsTagged.inner_eq {b : Block} (h : b.IsTagged) {front inner back : Text}
    (hfront : '>' ∉ front) (hback : '<' ∉ back)
    (ht : b.text = front ++ '>' :: (inner ++ '<' :: back)) :
  b.inner = inner
  := by
  obtain ⟨tag, ho, htag⟩ := h.opening
  obtain ⟨tag', hc, htag'⟩ := h.closing
  have htext : b.text = ('<' :: tag) ++ '>' :: (b.inner ++ '<' :: (tag' ++ ['>'])) := by
    simp [text, ho, hc]
  have hfirst := Text.cutAt?_eq_some_iff.mpr ⟨ht, hfront⟩
  rw [Text.cutAt?_eq_some_iff.mpr ⟨htext, by simpa using htag⟩] at hfirst
  have hrest := congrArg List.reverse (Prod.mk.inj (Option.some.inj hfirst)).2
  rw [List.reverse_append, List.reverse_append, List.reverse_cons, List.reverse_cons,
    List.append_assoc, List.append_assoc, List.singleton_append, List.singleton_append] at hrest
  have hlast := Text.cutAt?_eq_some_iff.mpr ⟨hrest, by simpa using hback⟩
  rw [Text.cutAt?_mid (by simpa using htag')] at hlast
  apply List.reverse_injective (Prod.mk.inj (Option.some.inj hlast)).2

/-- A block with whole tags is trimmed. -/
theorem IsTagged.trim_text {b : Block} (h : b.IsTagged) :
  Text.trim b.text = b.text
  := by
  obtain ⟨tag, ho, -⟩ := h.opening
  obtain ⟨tag', hc, -⟩ := h.closing
  have ht : b.text = '<' :: ((tag ++ '>' :: (b.inner ++ '<' :: tag')) ++ ['>']) := by
    simp [text, ho, hc]
  rw [ht]
  apply Text.trim_of_ends (by decide) (by decide)

end Block

/-! ### Both ways of reading -/

/-- The inside of a block that is laid out as a compact scene is that of the layout. -/
theorem Compact.Layout.inner_eq {b : Block} {l : Layout} (h : b.IsTagged) (hl : l.text = b.text)
    (hname : '>' ∉ l.heading.value) :
  b.inner = l.inner
  := by
  have hspelling : '>' ∉ l.heading.spelling := l.heading.spelled.notMem (Or.inr rfl) (by decide)
  have hattributes : '>' ∉ l.heading.attributes := Tag.notMem_attributes (by decide) hname
  have hclose : '<' ∉ l.close := l.close_spelled.notMem (Or.inl rfl) (by decide)
  have htail : '<' ∉ l.closeTail := fun hm =>
    absurd (List.all_eq_true.mp l.closeTail_blank _ hm) (by decide)
  have ht : b.text = ('<' :: (l.heading.spelling ++ l.heading.attributes)) ++ '>' ::
      (l.inner ++ '<' :: ('/' :: (l.close ++ (l.closeTail ++ ['>'])))) := by
    rw [← hl]
    simp only [text, Tag.text, closing, List.cons_append, List.append_assoc, List.nil_append]
  apply h.inner_eq _ _ ht
  · rw [List.mem_cons, List.mem_append, not_or, not_or]
    exact ⟨by decide, hspelling, hattributes⟩
  · simp only [List.mem_cons, List.mem_append, List.not_mem_nil, not_or, or_false]
    exact ⟨by decide, hclose, htail, by decide⟩

namespace Parser

/-- A character block lists no choices. -/
theorem takeBlock_of_character (p : Parser) {b : Block} (hk : b.kind = .character) :
  p.takeBlock b = p.sayAll b.utterances
  := by
  have hchoices : b.choices = [] := by rw [Block.choices, hk]
  have hnone : (BlockKind.character == BlockKind.choices) = false := rfl
  simp [takeBlock, takeChoices, hchoices, hk, hnone, Choice.offerAll]

/-- A parser takes in a character block that a scan finished and that is read as a compact
scene.  When no closing angle bracket is in the name and in the expression, and the names of
the tags and attributes are spelled in letters of ASCII, saying the block as a compact scene
gives out the same segments, and leaves the same parser, as saying its actions and lines. -/
theorem takeBlock_compact (p : Parser) {t : Text} {b : Block} {scene : Compact}
    (hb : b ∈ (Block.scan t).blocks) (hk : b.kind = .character)
    (hr : Compact.read? (Text.trim b.text) = some scene)
    (hname : '>' ∉ scene.name) (hexpression : '>' ∉ scene.expression)
    (hascii : ∃ l : Compact.Layout, l.text = Text.trim b.text ∧ l.HasAsciiNames) :
  p.takeBlock b = p.sayAll (if b.speaker = [] then [] else Utterance.ofCompact b.speaker scene)
    ∧ p.sayAll (Utterance.ofCompact b.speaker scene)
        = p.sayAll (Utterance.ofScene b.speaker b.opening b.inner)
  := by
  have htagged := Block.isTagged_of_mem_scanFrom hb
  obtain ⟨l, hl, hascii⟩ := hascii
  rw [← hl, Compact.read?_text] at hr
  obtain rfl := Option.some.inj hr
  constructor
  · rw [takeBlock_of_character p hk, Block.utterances, hk]
    simp only [← hl, Compact.read?_text, List.isEmpty_iff]
  · rw [htagged.trim_text] at hl
    rw [l.inner_eq htagged hl hname, l.ofScene_inner hascii hexpression]

/-- A compact scene with names in capitals and small letters, and with quotes, an equals sign and
angle brackets in its values and texts. -/
def layoutInMixedCase : Compact.Layout where
  heading :=
    { spelling := "ChArAcTeR"
      gap := " "
      keySpelling := "NAME"
      value := "Zhong='li'"
      tail := " "
      spelled := by decide
      gap_ne_nil := by decide
      gap_blank := by decide
      keySpelled := by decide
      value_ne_nil := by decide
      noQuote := by decide
      tail_blank := by decide }
  lead := "\t"
  action :=
    { spelling := "ACTION"
      gap := "\n "
      keySpelling := "Expression"
      value := "so<ft"
      tail := ""
      spelled := by decide
      gap_ne_nil := by decide
      gap_blank := by decide
      keySpelled := by decide
      value_ne_nil := by decide
      noQuote := by decide
      tail_blank := by decide }
  description := " bows > \"low\" "
  actionEnd := "acTION"
  gap := " "
  say := "Say"
  speech := "Ça va?"
  sayEnd := "sAY"
  trailing := "name=\"x\" >"
  close := "CHARACTER"
  closeTail := " "
  lead_spaces := by decide
  description_plain := by decide
  actionEnd_spelled := by decide
  gap_spaces := by decide
  say_spelled := by decide
  speech_ne_nil := by decide
  speech_plain := by decide
  sayEnd_spelled := by decide
  trailing_plain := by decide
  close_spelled := by decide
  closeTail_blank := by decide

/-- The scene is said as its action and its line. -/
theorem takeBlock_compact_in_mixed_case :
  let l := layoutInMixedCase
  let b : Block := ⟨.character, l.heading.text, l.inner, l.closing⟩
  let p := new defaultLimit defaultChoices
  l.text = ("<ChArAcTeR NAME=\"Zhong='li'\" >\t<ACTION\n Expression=\"so<ft\"> bows > \"low\" "
      ++ "</acTION> <Say>Ça va?</sAY>name=\"x\" ></CHARACTER >").toList
    ∧ p.takeBlock b
        = p.sayAll (if b.speaker = [] then [] else Utterance.ofCompact b.speaker l.scene)
    ∧ p.sayAll (Utterance.ofCompact b.speaker l.scene)
        = p.sayAll (Utterance.ofScene b.speaker b.opening b.inner)
  := by
  intro l b p
  refine ⟨by decide +kernel, ?_⟩
  apply takeBlock_compact p (t := l.text)
  · decide +kernel
  · rfl
  · decide +kernel
  · decide +kernel
  · decide +kernel
  · exact ⟨l, by decide +kernel, by decide +kernel⟩

end Parser

end BranchingStory
