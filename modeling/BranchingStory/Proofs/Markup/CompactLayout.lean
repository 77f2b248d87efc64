import BranchingStory.Markup.Compact
import BranchingStory.Proofs.Markup.Extension
import Mathlib.Data.Option.Basic

/-!
# Layouts of compact scenes

A layout says part by part how a text is written as a compact scene: the spellings of its
names, the blanks in its tags, and the characters around what is shown and said.  A text is
read as a compact scene exactly when it has a layout: `Compact.read?_eq_some_iff`.
-/

namespace BranchingStory

/-! ### Parts of a text -/

namespace Text

/-- What stands behind a lead is what completes it. -/
theorem after?_eq_some_iff {lead t rest : Text} :
  after? lead t = some rest ↔ t = lead ++ rest
  := by
  induction lead generalizing t with
  | nil => simp [after?]
  | cons a lead ih =>
      cases t with
      | nil => simp [after?]
      | cons c t =>
          by_cases h : a = c
          · simp [after?, h, ih]
          · simp [after?, h, Ne.symm h]

/-- The longest front part of a text whose characters are accepted ends where a character is
not accepted. -/
theorem takeWhile_dropWhile_iff {p : Char → Bool} {c : Char} (hc : p c = false)
    {t u v : Text} :
  t.takeWhile p = u ∧ t.dropWhile p = c :: v ↔ (∀ d ∈ u, p d = true) ∧ t = u ++ c :: v
  := by
  constructor
  · rintro ⟨rfl, hd⟩
    refine ⟨fun d hd => List.mem_takeWhile_imp hd, ?_⟩
    rw [← hd, List.takeWhile_append_dropWhile]
  · rintro ⟨hu, rfl⟩
    rw [List.takeWhile_append_of_pos hu, List.dropWhile_append_of_pos hu]
    simp [hc]

end Text

/-- A blank does not spell a letter. -/
theorem TagName.isBlank_of_spells {a c : Char} (ha : isBlank a = false)
    (hc : spells a c = true) :
  isBlank c = false
  := by
  have hcapital : ∀ n < 26, isBlank (Char.ofNat (65 + n)) = false := by decide
  by_contra hb
  rw [Bool.not_eq_false] at hb
  have hplain : plainForm c = c := by
    unfold plainForm
    split_ifs with h₁ h₂ h₃
    · have hn := hcapital (c.toNat - 65) (by omega)
      rw [Nat.add_sub_cancel' h₁.1, Char.ofNat_toNat, hb] at hn
      cases hn
    · subst h₂
      revert hb
      decide
    · subst h₃
      revert hb
      decide
    · rfl
  simp only [spells, hplain, Bool.or_eq_true, Bool.and_eq_true, beq_iff_eq] at hc
  obtain (rfl | ⟨-, rfl⟩) | ⟨-, rfl⟩ := hc
  · rw [ha] at hb
    cases hb
  · revert hb
    decide
  · revert hb
    decide

namespace Compact

/-! ### Tags with one attribute -/

/-- An opening tag with one attribute as it is written: the spelling of its name, the blanks
behind it, the spelling of the attribute's name, the value, and the blanks behind that. -/
structure Tag (name key : Text) where
  spelling : Text
  gap : Text
  keySpelling : Text
  value : Text
  tail : Text
  spelled : TagName.Spelled name spelling
  gap_ne_nil : gap ≠ []
  gap_blank : Text.isBlankOnly gap = true
  keySpelled : TagName.Spelled key keySpelling
  value_ne_nil : value ≠ []
  noQuote : '"' ∉ value
  tail_blank : Text.isBlankOnly tail = true

namespace Tag

variable {name key : Text}

/-- What stands between the name of a tag and its closing angle bracket. -/
def attributes (g : Tag name key) : Text :=
  g.gap ++ (g.keySpelling ++ '=' :: '"' :: (g.value ++ '"' :: g.tail))

/-- The text of a tag. -/
def text (g : Tag name key) : Text :=
  '<' :: (g.spelling ++ (g.attributes ++ ['>']))

/-- The gap in front of an attribute is blank. -/
theorem isBlank_gap (g : Tag name key) :
  ∀ c ∈ g.gap, isBlank c = true
  := List.all_eq_true.mp g.gap_blank

theorem isBlank_tail (g : Tag name key) :
  ∀ c ∈ g.tail, isBlank c = true
  := List.all_eq_true.mp g.tail_blank

end Tag

/-! ### What the readers accept -/

variable {name key t u rest value body : Text}

theorem name?_eq_some_iff :
  name? name t = some rest ↔ ∃ spelling, TagName.Spelled name spelling ∧ t = spelling ++ rest
  := by
  simp [name?, TagName.take?_eq_some_iff, and_comm]

/-- Blanks are read up to the first character that is none. -/
theorem blanks?_eq_some_iff {c : Char} (hc : isBlank c = false) :
  blanks? t = some (c :: rest)
    ↔ ∃ gap : Text, gap ≠ [] ∧ (∀ d ∈ gap, isBlank d = true) ∧ t = gap ++ c :: rest
  := by
  constructor
  · intro h
    unfold blanks? at h
    split at h
    · next d t =>
      split_ifs at h with hd
      obtain ⟨hgap, ht⟩ := (Text.takeWhile_dropWhile_iff hc).mp ⟨rfl, Option.some.inj h⟩
      refine ⟨d :: t.takeWhile isBlank, by simp, ?_, by rw [List.cons_append, ← ht]⟩
      exact List.forall_mem_cons.mpr ⟨hd, hgap⟩
    · cases h
  · rintro ⟨gap, hne, hgap, rfl⟩
    cases gap with
    | nil => exact absurd rfl hne
    | cons d gap =>
        obtain ⟨hd, hgap⟩ := List.forall_mem_cons.mp hgap
        have hrest : (gap ++ c :: rest).dropWhile isBlank = c :: rest :=
          ((Text.takeWhile_dropWhile_iff hc).mpr ⟨hgap, rfl⟩).2
        simp [blanks?, hd, hrest]

/-- A value is taken between its quotes, and holds none. -/
theorem value?_eq_some_iff :
  value? t = some (value, rest)
    ↔ value ≠ [] ∧ '"' ∉ value ∧ t = '"' :: (value ++ '"' :: rest)
  := by
  simp only [value?, Option.bind_eq_bind, Option.bind_eq_some_iff, Text.after?_eq_some_iff]
  constructor
  · rintro ⟨t, rfl, ⟨v, r⟩, hcut, h⟩
    split_ifs at h with hne
    obtain ⟨rfl, rfl⟩ := Prod.mk.inj (Option.some.inj h)
    obtain ⟨rfl, hq⟩ := Text.cutAt?_eq_some_iff.mp hcut
    exact ⟨by simpa using hne, hq, rfl⟩
  · rintro ⟨hne, hq, rfl⟩
    refine ⟨_, rfl, ⟨value, rest⟩, Text.cutAt?_eq_some_iff.mpr ⟨rfl, hq⟩, ?_⟩
    simp [hne]

/-- A name and a single attribute are read up to the end of a tag exactly where such a tag
stands. -/
theorem tag_iff (hne : key ≠ []) (hkey : (key.all fun a => !isBlank a) = true) :
  (∃ u, name? name t = some u ∧ attributeToEnd? key u = some (value, rest))
    ↔ ∃ g : Tag name key, g.value = value ∧ '<' :: t = g.text ++ rest
  := by
  simp only [attributeToEnd?, Option.bind_eq_bind, Option.bind_eq_some_iff,
    Text.after?_eq_some_iff, name?_eq_some_iff]
  constructor
  · rintro ⟨_, ⟨spelling, hs, rfl⟩, t₁, hblanks, t₂, ⟨keySpelling, hk, rfl⟩, t₃, rfl, ⟨v, t₄⟩, hv,
      ⟨closing, r⟩, hend, h⟩
    obtain ⟨rfl, rfl⟩ := Prod.mk.inj (Option.some.inj h)
    obtain ⟨hvalue, hq, rfl⟩ := value?_eq_some_iff.mp hv
    obtain ⟨tail, htail, -, rfl⟩ := TagName.tagEnd?_eq_some_iff.mp hend
    cases hk with
    | nil => exact absurd rfl hne
    | @cons a c _ more hc hk =>
        rw [List.all_cons, Bool.and_eq_true, Bool.not_eq_true'] at hkey
        have hblank := TagName.isBlank_of_spells hkey.1 hc
        obtain ⟨gap, hgap, hb, rfl⟩ := (blanks?_eq_some_iff hblank).mp hblanks
        refine ⟨⟨spelling, gap, c :: more, v, tail, hs, hgap, List.all_eq_true.mpr hb,
          .cons hc hk, hvalue, hq, List.all_eq_true.mpr htail⟩, rfl, ?_⟩
        simp [Tag.text, Tag.attributes]
  · rintro ⟨g, rfl, h⟩
    have ht : t = g.spelling ++ (g.gap ++ (g.keySpelling
        ++ '=' :: '"' :: (g.value ++ '"' :: (g.tail ++ '>' :: rest)))) := by
      simpa [Tag.text, Tag.attributes] using (List.cons.inj h).2
    refine ⟨_, ⟨g.spelling, g.spelled, ht⟩, _, ?_, _, ⟨g.keySpelling, g.keySpelled, rfl⟩, _, rfl,
      ⟨g.value, _⟩, value?_eq_some_iff.mpr ⟨g.value_ne_nil, g.noQuote, rfl⟩, ⟨_, rest⟩,
      TagName.tagEnd?_eq_some_iff.mpr ⟨g.tail, g.isBlank_tail, rfl, rfl⟩, rfl⟩
    obtain ⟨spelling, gap, keySpelling, v, tail, hs, hgap, hb, hk, hvalue, hq, htail⟩ := g
    cases hk with
    | nil => exact absurd rfl hne
    | @cons a c _ more hc hk =>
        rw [List.all_cons, Bool.and_eq_true, Bool.not_eq_true'] at hkey
        apply (blanks?_eq_some_iff (TagName.isBlank_of_spells hkey.1 hc)).mpr
        exact ⟨gap, hgap, List.all_eq_true.mp hb, rfl⟩

/-- Whether a text consists of spaces and tabs only. -/
def isSpaces (t : Text) : Bool :=
  t.all fun c => c == ' ' || c == '\t'

/-- An opening angle bracket is read behind spaces and tabs. -/
theorem skipSpaces_iff :
  Text.after? ['<'] (skipSpaces t) = some rest
    ↔ ∃ spaces : Text, isSpaces spaces = true ∧ t = spaces ++ '<' :: rest
  := by
  simp only [Text.after?_eq_some_iff, skipSpaces, List.singleton_append, isSpaces,
    List.all_eq_true]
  constructor
  · intro h
    obtain ⟨hs, ht⟩ := (Text.takeWhile_dropWhile_iff (by decide)).mp ⟨rfl, h⟩
    exact ⟨_, hs, ht⟩
  · rintro ⟨spaces, hs, ht⟩
    apply ((Text.takeWhile_dropWhile_iff (by decide)).mpr ⟨hs, ht⟩).2

/-- The body of an element is read up to its closing tag exactly where such a body and tag
stand. -/
theorem body_iff :
  (t.takeWhile isPlain = body ∧ ∃ u, Text.after? "</" (t.dropWhile isPlain) = some u
      ∧ ∃ v, name? name u = some v ∧ Text.after? ['>'] v = some rest)
    ↔ body.all isPlain = true ∧ ∃ spelling, TagName.Spelled name spelling
        ∧ t = body ++ '<' :: '/' :: (spelling ++ '>' :: rest)
  := by
  simp only [Text.after?_eq_some_iff, name?_eq_some_iff, List.all_eq_true]
  constructor
  · rintro ⟨hbody, _, h, _, ⟨spelling, hs, rfl⟩, rfl⟩
    obtain ⟨hplain, ht⟩ := (Text.takeWhile_dropWhile_iff (by decide)).mp ⟨hbody, h⟩
    exact ⟨hplain, spelling, hs, ht⟩
  · rintro ⟨hplain, spelling, hs, ht⟩
    obtain ⟨hbody, h⟩ := (Text.takeWhile_dropWhile_iff (by decide)).mpr ⟨hplain, ht⟩
    exact ⟨hbody, _, h, _, ⟨spelling, hs, rfl⟩, rfl⟩

/-- The closing tag of a block is read behind the characters that may trail. -/
theorem trailing_iff :
  (∃ closing, TagName.closing? name (t.dropWhile isPlain) = some (closing, []))
    ↔ ∃ trailing spelling blanks : Text, trailing.all isPlain = true
        ∧ TagName.Spelled name spelling ∧ Text.isBlankOnly blanks = true
        ∧ t = trailing ++ '<' :: '/' :: (spelling ++ (blanks ++ ['>']))
  := by
  simp only [TagName.closing?_eq_some_iff, List.append_nil, Text.isBlankOnly, List.all_eq_true]
  constructor
  · rintro ⟨_, spelling, blanks, hs, hb, rfl, h⟩
    obtain ⟨hplain, ht⟩ := (Text.takeWhile_dropWhile_iff (by decide)).mp ⟨rfl, h⟩
    exact ⟨_, spelling, blanks, hplain, hs, hb, ht⟩
  · rintro ⟨trailing, spelling, blanks, hplain, hs, hb, ht⟩
    refine ⟨_, spelling, blanks, hs, hb, rfl, ?_⟩
    apply ((Text.takeWhile_dropWhile_iff (by decide)).mpr ⟨hplain, ht⟩).2

/-! ### Layouts -/

/-- How a text is written as a compact scene: the opening tag of the block; spaces and the
opening tag of the action, its description and the spelling of the name in its closing tag;
spaces and the spelling of the name in the opening tag of the line, the speech and the
spelling in its closing tag; what trails; and the spelling of the name in the closing tag of
the block with the blanks behind it. -/
structure Layout where
  heading : Tag "character" "name"
  lead : Text
  action : Tag "action" "expression"
  description : Text
  actionEnd : Text
  gap : Text
  say : Text
  speech : Text
  sayEnd : Text
  trailing : Text
  close : Text
  closeTail : Text
  lead_spaces : isSpaces lead = true
  description_plain : description.all isPlain = true
  actionEnd_spelled : TagName.Spelled "action" actionEnd
  gap_spaces : isSpaces gap = true
  say_spelled : TagName.Spelled "say" say
  speech_ne_nil : speech ≠ []
  speech_plain : speech.all isPlain = true
  sayEnd_spelled : TagName.Spelled "say" sayEnd
  trailing_plain : trailing.all isPlain = true
  close_spelled : TagName.Spelled "character" close
  closeTail_blank : Text.isBlankOnly closeTail = true

namespace Layout

/-- The text of a line from the bracket of its opening tag to that of its closing tag. -/
def lineText (l : Layout) : Text :=
  '<' :: (l.say ++ '>' :: (l.speech ++ '<' :: '/' :: (l.sayEnd ++ ['>'])))

/-- The text of an action from the bracket of its opening tag to that of its closing tag. -/
def actionText (l : Layout) : Text :=
  l.action.text ++ (l.description ++ '<' :: '/' :: (l.actionEnd ++ ['>']))

/-- What stands between the opening tag and the closing tag of the block. -/
def inner (l : Layout) : Text :=
  l.lead ++ (l.actionText ++ (l.gap ++ (l.lineText ++ l.trailing)))

/-- The closing tag of the block. -/
def closing (l : Layout) : Text :=
  '<' :: '/' :: (l.close ++ (l.closeTail ++ ['>']))

/-- The text that is written. -/
def text (l : Layout) : Text :=
  l.heading.text ++ (l.inner ++ l.closing)

/-- The scene that is read from the text. -/
def scene (l : Layout) : Compact :=
  ⟨l.heading.value, l.action.value, l.description, l.speech⟩

/-- The spellings of the names of all tags and attributes. -/
def names (l : Layout) : List Text :=
  [l.heading.spelling, l.heading.keySpelling, l.action.spelling, l.action.keySpelling,
   l.actionEnd, l.say, l.sayEnd, l.close]

end Layout

/-- A text that is read as a compact scene has a layout with that scene. -/
theorem exists_layout {scene : Compact} (h : read? t = some scene) :
  ∃ l : Layout, l.text = t ∧ l.scene = scene
  := by
  simp only [read?, Option.bind_eq_bind, Option.bind_eq_some_iff] at h
  obtain ⟨t₁, h₁, t₂, h₂, ⟨name, t₃⟩, h₃, t₄, h₄, t₅, h₅, ⟨expression, t₆⟩, h₆, t₇, h₇, t₈, h₈,
    t₉, h₉, t₁₀, h₁₀, t₁₁, h₁₁, t₁₂, h₁₂, ⟨⟩, hspeech, t₁₃, h₁₃, t₁₄, h₁₄, t₁₅, h₁₅,
    ⟨closing, t₁₆⟩, h₁₆, ⟨⟩, hend, hscene⟩ := h
  dsimp only at h₄ h₇ h₁₆ hend hscene
  generalize hdescription : t₆.takeWhile isPlain = description at hscene
  generalize hline : t₁₂.takeWhile isPlain = speech at hspeech hscene
  obtain rfl := Option.some.inj hscene
  obtain rfl : t₁₆ = [] := by simpa [guard] using hend
  have hne : speech ≠ [] := by simpa [guard] using hspeech
  obtain ⟨heading, rfl, hheading⟩ := (tag_iff (by decide) (by decide)).mp ⟨t₂, h₂, h₃⟩
  obtain ⟨lead, hlead, rfl⟩ := skipSpaces_iff.mp h₄
  obtain ⟨action, rfl, haction⟩ := (tag_iff (by decide) (by decide)).mp ⟨t₅, h₅, h₆⟩
  obtain ⟨hplain, actionEnd, hactionEnd, rfl⟩ :=
    body_iff.mp ⟨hdescription, t₇, h₇, t₈, h₈, h₉⟩
  obtain ⟨gap, hgap, rfl⟩ := skipSpaces_iff.mp h₁₀
  obtain ⟨say, hsay, rfl⟩ := name?_eq_some_iff.mp h₁₁
  obtain rfl := Text.after?_eq_some_iff.mp h₁₂
  obtain ⟨hplain', sayEnd, hsayEnd, rfl⟩ := body_iff.mp ⟨hline, t₁₃, h₁₃, t₁₄, h₁₄, h₁₅⟩
  obtain ⟨trailing, close, closeTail, htrailing, hclose, htail, rfl⟩ :=
    trailing_iff.mp ⟨closing, h₁₆⟩
  use ⟨heading, lead, action, description, actionEnd, gap, say, speech, sayEnd, trailing, close,
    closeTail, hlead, hplain, hactionEnd, hgap, hsay, hne, hplain', hsayEnd, htrailing, hclose,
    htail⟩
  refine ⟨?_, rfl⟩
  rw [Text.after?_eq_some_iff.mp h₁, List.singleton_append, hheading, haction]
  simp [Layout.text, Layout.inner, Layout.actionText, Layout.lineText, Layout.closing]

/-- The text of a layout is read as its scene. -/
theorem read?_text (l : Layout) :
  read? l.text = some l.scene
  := by
  -- The text behind the opening tag, the action's tag, the action, and the line.
  let t₁₅ := l.trailing ++ l.closing
  let t₁₂ := l.speech ++ '<' :: '/' :: (l.sayEnd ++ '>' :: t₁₅)
  let t₉ := l.gap ++ '<' :: (l.say ++ '>' :: t₁₂)
  let t₆ := l.description ++ '<' :: '/' :: (l.actionEnd ++ '>' :: t₉)
  let t₃ := l.lead ++ (l.action.text ++ t₆)
  have ht : l.text = l.heading.text ++ t₃ := by
    simp [t₃, t₆, t₉, t₁₂, t₁₅, Layout.text, Layout.inner, Layout.actionText, Layout.lineText]
  obtain ⟨t₂, h₂, h₃⟩ := (tag_iff (by decide) (by decide)).mpr
    ⟨l.heading, rfl, (rfl : '<' :: _ = l.heading.text ++ t₃)⟩
  have h₄ := skipSpaces_iff.mpr ⟨l.lead, l.lead_spaces, (rfl : t₃ = l.lead ++ '<' :: _)⟩
  obtain ⟨t₅, h₅, h₆⟩ := (tag_iff (by decide) (by decide)).mpr
    ⟨l.action, rfl, (rfl : '<' :: _ = l.action.text ++ t₆)⟩
  obtain ⟨hdescription, t₇, h₇, t₈, h₈, h₉⟩ := body_iff.mpr
    ⟨l.description_plain, l.actionEnd, l.actionEnd_spelled, (rfl : t₆ = _)⟩
  have h₁₀ := skipSpaces_iff.mpr ⟨l.gap, l.gap_spaces, (rfl : t₉ = l.gap ++ '<' :: _)⟩
  have h₁₁ := name?_eq_some_iff.mpr ⟨l.say, l.say_spelled, (rfl : l.say ++ '>' :: t₁₂ = _)⟩
  obtain ⟨hline, t₁₃, h₁₃, t₁₄, h₁₄, h₁₅⟩ := body_iff.mpr
    ⟨l.speech_plain, l.sayEnd, l.sayEnd_spelled, (rfl : t₁₂ = _)⟩
  obtain ⟨closing, h₁₆⟩ := trailing_iff.mpr ⟨l.trailing, l.close, l.closeTail,
    l.trailing_plain, l.close_spelled, l.closeTail_blank, (rfl : t₁₅ = _)⟩
  simp only [read?, Option.bind_eq_bind, Option.bind_eq_some_iff]
  refine ⟨_, Text.after?_eq_some_iff.mpr ht, t₂, h₂, _, h₃, _, h₄, t₅, h₅, _, h₆, t₇, h₇, t₈, h₈,
    t₉, h₉, _, h₁₀, _, h₁₁, t₁₂, Text.after?_eq_some_iff.mpr rfl, ⟨⟩, ?_, t₁₃, h₁₃, t₁₄, h₁₄,
    t₁₅, h₁₅, _, h₁₆, ⟨⟩, rfl, ?_⟩
  · simp [hline, l.speech_ne_nil]
  · rw [hdescription, hline]
    rfl

/-- A text is read as a compact scene exactly when it has a layout with that scene. -/
theorem read?_eq_some_iff {scene : Compact} :
  read? t = some scene ↔ ∃ l : Layout, l.text = t ∧ l.scene = scene
  := by
  constructor
  · exact exists_layout
  · rintro ⟨l, rfl, rfl⟩
    apply read?_text

end Compact

end BranchingStory
