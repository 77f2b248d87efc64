import BranchingStory.Proofs.Markup.PassageBlock
import BranchingStory.Proofs.Text.Trim
import Mathlib.Data.List.Find

/-!
# What written passages say

The block that a plain passage is written as proposes the utterances of the passage and
lists its choices.  A scene that can be read in compact form consists of one action and
one line, and it says the same in that form.
-/

namespace BranchingStory

/-! ### Compact scenes -/

namespace Compact

variable {p : Char → Bool} {gap t u : Text}

/-- Characters that are skipped up to a tag are all of the text before it, or they are
followed by another character of that text. -/
theorem dropWhile_gap (hp : p '<' = false) (hgap : '<' ∉ gap) (t : Text) :
  ((gap ++ '<' :: t).takeWhile p = gap ∧ (gap ++ '<' :: t).dropWhile p = '<' :: t)
    ∨ ∃ c u, c ≠ '<' ∧ (gap ++ '<' :: t).dropWhile p = c :: u
  := by
  induction gap with
  | nil => simp [hp]
  | cons c gap ih =>
      rw [List.mem_cons, not_or] at hgap
      by_cases hc : p c = true
      · simpa [hc] using ih hgap.2
      · right
        exact ⟨c, gap ++ '<' :: t, Ne.symm hgap.1, by simp [hc]⟩

/-- When a tag is read behind characters that are skipped, they are all of the text before
the tag. -/
theorem after?_gap (hp : p '<' = false) (hgap : '<' ∉ gap) {lead : Text}
    (h : Text.after? ('<' :: lead) ((gap ++ '<' :: t).dropWhile p) = some u) :
  (gap ++ '<' :: t).takeWhile p = gap ∧ Text.after? lead t = some u
  := by
  obtain ⟨ht, hd⟩ | ⟨c, v, hc, hd⟩ := dropWhile_gap hp hgap t
  · rw [hd] at h
    simpa [Text.after?, ht] using h
  · rw [hd] at h
    simp [Text.after?, Ne.symm hc] at h

/-- A closing tag is read only where one stands. -/
theorem eq_of_closing?_gap {name closing rest : Text} {c : Char} (hp : p '<' = false)
    (hgap : '<' ∉ gap)
    (h : TagName.closing? name ((gap ++ '<' :: c :: t).dropWhile p) = some (closing, rest)) :
  c = '/'
  := by
  obtain ⟨s, b, -, -, rfl, ht⟩ := TagName.closing?_eq_some_iff.mp h
  obtain ⟨-, hd⟩ | ⟨d, v, hd, hv⟩ := dropWhile_gap hp hgap (c :: t)
  · rw [hd] at ht
    apply (List.cons.inj (List.cons.inj ht).2).1
  · rw [hv] at ht
    exact absurd (List.cons.inj ht).1 hd

/-- A name is read as it is written. -/
theorem name?_written {name : Text} (h : (name.all fun a => TagName.spells a a) = true)
    (t : Text) :
  name? name (name ++ t) = some t
  := by
  simp [name?, TagName.take?_of_spelled (TagName.Spelled.refl h)]

theorem spells_of_name? {a c : Char} {name : Text} (h : name? (a :: name) (c :: t) = some u) :
  TagName.spells a c = true
  := by
  by_contra hn
  rw [name?, TagName.take?_cons_of_not (Bool.not_eq_true _ ▸ hn)] at h
  simp at h

/-- A written attribute up to the next one is read when its value is not empty. -/
theorem value_of_attributeToEnd? (a : Char) (name : Text) {value v : Text} (ha : isBlank a = false)
    (hn : ((a :: name).all fun b => TagName.spells b b) = true) (hv : '"' ∉ value)
    (h : attributeToEnd? (a :: name) (attributeText (a :: name) value ++ t) = some (v, u)) :
  v = value ∧ ∃ closing, TagName.tagEnd? t = some (closing, u)
  := by
  have hs : isBlank ' ' = true := by decide
  have hb : blanks? (attributeText (a :: name) value ++ t)
      = some (a :: name ++ '=' :: '"' :: (value ++ '"' :: t)) := by
    simp [blanks?, attributeText, hs, ha]
  simp only [attributeToEnd?, hb, name?_written hn, Text.after?, value?, Option.bind_eq_bind,
    Option.bind_some, if_true, Text.cutAt?_mid hv] at h
  split_ifs at h
  · simp at h
  · rw [Option.bind_some] at h
    obtain ⟨⟨closing, w⟩, hw, he⟩ := Option.bind_eq_some_iff.mp h
    simp only [Option.pure_def, Option.some.injEq, Prod.mk.injEq] at he
    exact ⟨he.1.symm, closing, by rw [hw, he.2]⟩

theorem after?_singleton {c : Char} (h : Text.after? [c] (c :: t) = some u) :
  u = t
  := by
  simpa [Text.after?, eq_comm] using h

/-- What is read behind a written name is what stands there. -/
theorem eq_of_name? {name : Text} (hn : (name.all fun a => TagName.spells a a) = true)
    (h : name? name (name ++ t) = some u) :
  u = t
  := by
  rw [name?_written hn] at h
  apply (Option.some.inj h).symm

/-- What is read from the opening tag of a character block with one attribute at least. -/
theorem name_of_opening {value v : Text} {t₁ t₂ : Text} (hv : '"' ∉ value)
    (h₁ : Text.after? ['<']
      ('<' :: (("character" : Text) ++ (attributeText "name" value ++ t))) = some t₁)
    (h₂ : name? "character" t₁ = some t₂) (h₃ : attributeToEnd? "name" t₂ = some (v, u)) :
  ∃ closing, TagName.tagEnd? t = some (closing, u)
  := by
  obtain rfl := after?_singleton h₁
  obtain rfl := eq_of_name? (by decide) h₂
  apply (value_of_attributeToEnd? 'n' ['a', 'm', 'e'] (by decide) (by decide) hv h₃).2

/-- A text with two attributes in its opening tag is no compact scene. -/
theorem read?_speech {name emotion text : Text} (hn : '"' ∉ name) :
  read? (Passage.print (.speech name emotion text)) = none
  := by
  apply Option.eq_none_iff_forall_ne_some.mpr
  intro scene h
  rw [Passage.print, ← List.append_nil (elementText _ _ _), elementText_append,
    List.append_assoc (attributeText _ _)] at h
  simp only [read?, Option.bind_eq_bind, Option.bind_eq_some_iff] at h
  obtain ⟨t₁, h₁, t₂, h₂, ⟨v, t₃⟩, h₃, -⟩ := h
  obtain ⟨closing, hc⟩ := name_of_opening hn h₁ h₂ h₃
  have hb : isBlank ' ' = true := by decide
  have he : isBlank 'e' = false := by decide
  have hr : attributeText "emotion" emotion
      = ' ' :: 'e' :: (attributeText "emotion" emotion).drop 2 := rfl
  rw [hr] at hc
  simp [TagName.tagEnd?, hb, he] at hc

/-- The body of a written element is all that is read up to its closing tag. -/
theorem body_of_name? {name body w t₁ t₂ t₃ : Text}
    (hn : (name.all fun a => TagName.spells a a) = true)
    (hb : '<' ∉ body)
    (h₁ : Text.after? ['<', '/'] ((body ++ '<' :: '/' :: (name ++ '>' :: w)).dropWhile isPlain)
      = some t₁)
    (h₂ : name? name t₁ = some t₂) (h₃ : Text.after? ['>'] t₂ = some t₃) :
  (body ++ '<' :: '/' :: (name ++ '>' :: w)).takeWhile isPlain = body ∧ t₃ = w
  := by
  obtain ⟨ht, ha⟩ := after?_gap rfl hb h₁
  obtain rfl := after?_singleton ha
  obtain rfl := eq_of_name? hn h₂
  exact ⟨ht, after?_singleton h₃⟩

/-- The text of beats in front of a closing tag. -/
def beatsBefore (u : Text) (beats : List (Beat × Text)) : Text :=
  beats.flatMap (fun b => b.1.print ++ b.2) ++ '<' :: '/' :: u

variable {beats : List (Beat × Text)} {t₁ t₂ : Text}

/-- An action is printed with its expression, and the others behind it. -/
theorem beatsBefore_action (u expression text g : Text) (more : List (Beat × Text)) :
  beatsBefore u ((.action expression text, g) :: more)
    = '<' :: (("action" : Text) ++ (attributeText "expression" expression ++ '>' ::
        (text ++ '<' :: '/' :: (("action" : Text) ++ '>' :: (g ++ beatsBefore u more)))))
  := by
  rw [beatsBefore, List.flatMap_cons, Beat.print, List.append_assoc, List.append_assoc,
    elementText_append]
  rfl

/-- A speech is printed without attributes, and the others behind it. -/
theorem beatsBefore_say (u text g : Text) (more : List (Beat × Text)) :
  beatsBefore u ((.say text, g) :: more)
    = '<' :: (("say" : Text) ++ '>' ::
        (text ++ '<' :: '/' :: (("say" : Text) ++ '>' :: (g ++ beatsBefore u more))))
  := by
  rw [beatsBefore, List.flatMap_cons, Beat.print, List.append_assoc, List.append_assoc,
    elementText_append]
  rfl

/-- Where an action is read the next beat is an action. -/
theorem action_of_name? (hgap : '<' ∉ gap)
    (h₁ : Text.after? ['<'] (skipSpaces (gap ++ beatsBefore u beats)) = some t₁)
    (h₂ : name? "action" t₁ = some t₂) :
  ∃ expression text g more, beats = (.action expression text, g) :: more
    ∧ t₂ = attributeText "expression" expression
        ++ '>' :: (text ++ '<' :: '/' :: (("action" : Text) ++ '>' :: (g ++ beatsBefore u more)))
  := by
  obtain _ | ⟨⟨⟨expression, text⟩ | text, g⟩, more⟩ := beats
  · obtain ⟨-, ha⟩ := after?_gap rfl hgap h₁
    obtain rfl := Option.some.inj ha
    apply absurd (spells_of_name? (a := 'a') (c := '/') h₂) (by decide)
  · rw [beatsBefore_action] at h₁
    obtain ⟨-, ha⟩ := after?_gap rfl hgap h₁
    obtain rfl := Option.some.inj ha
    exact ⟨expression, text, g, more, rfl, eq_of_name? (by decide) h₂⟩
  · rw [beatsBefore_say] at h₁
    obtain ⟨-, ha⟩ := after?_gap rfl hgap h₁
    obtain rfl := Option.some.inj ha
    apply absurd (spells_of_name? (a := 'a') (c := 's') h₂) (by decide)

/-- Where a line is read the next beat is a line. -/
theorem say_of_name? (hgap : '<' ∉ gap)
    (h₁ : Text.after? ['<'] (skipSpaces (gap ++ beatsBefore u beats)) = some t₁)
    (h₂ : name? "say" t₁ = some t₂) :
  ∃ text g more, beats = (.say text, g) :: more
    ∧ t₂ = '>' :: (text ++ '<' :: '/' :: (("say" : Text) ++ '>' :: (g ++ beatsBefore u more)))
  := by
  obtain _ | ⟨⟨⟨expression, text⟩ | text, g⟩, more⟩ := beats
  · obtain ⟨-, ha⟩ := after?_gap rfl hgap h₁
    obtain rfl := Option.some.inj ha
    apply absurd (spells_of_name? (a := 's') (c := '/') h₂) (by decide)
  · rw [beatsBefore_action] at h₁
    obtain ⟨-, ha⟩ := after?_gap rfl hgap h₁
    obtain rfl := Option.some.inj ha
    apply absurd (spells_of_name? (a := 's') (c := 'a') h₂) (by decide)
  · rw [beatsBefore_say] at h₁
    obtain ⟨-, ha⟩ := after?_gap rfl hgap h₁
    obtain rfl := Option.some.inj ha
    exact ⟨text, g, more, rfl, eq_of_name? (by decide) h₂⟩

/-- Where a closing tag is read no beat is left. -/
theorem nil_of_closing? {name closing rest : Text} (hgap : '<' ∉ gap)
    (h : TagName.closing? name ((gap ++ beatsBefore u beats).dropWhile isPlain)
      = some (closing, rest)) :
  beats = []
  := by
  obtain _ | ⟨⟨⟨expression, text⟩ | text, g⟩, more⟩ := beats
  · rfl
  · rw [beatsBefore_action] at h
    apply absurd (eq_of_closing?_gap (c := 'a') rfl hgap h) (by decide)
  · rw [beatsBefore_say] at h
    apply absurd (eq_of_closing?_gap (c := 's') rfl hgap h) (by decide)

/-- A plain scene that can be read in compact form is one action and one line. -/
theorem beats_of_read? {name lead : Text} {scene : Compact}
    (h : (Passage.scene name lead beats).IsPlain)
    (hr : read? (Passage.print (.scene name lead beats)) = some scene) :
  ∃ g g', beats = [(.action scene.expression scene.action, g), (.say scene.speech, g')]
  := by
  obtain ⟨hname, hlead, -, hbeats⟩ := h
  rw [Passage.print, ← List.append_nil (elementText _ _ _), elementText_append,
    List.append_assoc lead] at hr
  simp only [read?, Option.bind_eq_bind, Option.bind_eq_some_iff] at hr
  obtain ⟨t₁, h₁, t₂, h₂, ⟨v, t₃⟩, h₃, t₄, h₄, t₅, h₅, ⟨expression, t₆⟩, h₆, t₇, h₇, t₈, h₈,
    t₉, h₉, t₁₀, h₁₀, t₁₁, h₁₁, t₁₂, h₁₂, -, -, t₁₃, h₁₃, t₁₄, h₁₄, t₁₅, h₁₅, ⟨closing, t₁₆⟩, h₁₆,
    -, -, hs⟩ := hr
  obtain rfl := Option.some.inj hs
  obtain ⟨_, hc⟩ := name_of_opening hname.noQuote h₁ h₂ h₃
  obtain ⟨-, rfl⟩ := Prod.mk.inj (Option.some.inj ((TagName.tagEnd?_cons _).symm.trans hc))
  obtain ⟨e, text, g, more, rfl, rfl⟩ := action_of_name? hlead h₄ h₅
  have hb := hbeats _ List.mem_cons_self
  obtain ⟨rfl, _, he⟩ := value_of_attributeToEnd? 'e' _ (by decide) (by decide)
    hb.1.1.noQuote h₆
  obtain ⟨-, rfl⟩ := Prod.mk.inj (Option.some.inj ((TagName.tagEnd?_cons _).symm.trans he))
  obtain ⟨ht, rfl⟩ := body_of_name? (by decide) hb.1.2 h₇ h₈ h₉
  obtain ⟨line, g', more, rfl, rfl⟩ := say_of_name? hb.2 h₁₀ h₁₁
  have hl := hbeats _ (List.mem_cons_of_mem _ List.mem_cons_self)
  obtain rfl := after?_singleton h₁₂
  obtain ⟨hw, rfl⟩ := body_of_name? (by decide) hl.1 h₁₃ h₁₄ h₁₅
  obtain rfl := nil_of_closing? hl.2 h₁₆
  exact ⟨g, g', by simp only [ht, hw]⟩

end Compact

/-! ### Attributes of passages -/

namespace Attribute

/-- The names of the attributes that are written. -/
def keys : List Text := ["name", "emotion", "expression", "id", "disabled"]

theorem lower_key {key : Text} (h : key ∈ keys) :
  Text.lower key = key
  := by
  revert key
  decide

/-- An attribute of a known name is read back when its value has no double quote. -/
theorem Writable.of_key {key value : Text} (hk : key ∈ keys) (hv : '"' ∉ value) :
  Writable (key, value)
  := by
  have hkeys : ∀ k ∈ keys, k ≠ []
      ∧ (k.all fun c => isBlank c = false ∧ c ≠ '=' ∧ isNameChar c = true) = true := by
    decide
  obtain ⟨hne, hall⟩ := hkeys key hk
  have hc := fun c hm => of_decide_eq_true (List.all_eq_true.mp hall c hm)
  cases key with
  | nil => exact absurd rfl hne
  | cons c name =>
      obtain ⟨hb, he, -⟩ := hc c List.mem_cons_self
      exact ⟨⟨c, name, rfl, hb, he, fun d hd => (hc d hd).2.2⟩, hv⟩

/-- Known names are found as they are written. -/
theorem find?_lower {as : List (Text × Text)} (h : ∀ b ∈ as, b.1 ∈ keys ∧ '"' ∉ b.2) (key : Text) :
  as.reverse.find? (Text.lower ·.1 == key) = as.reverse.find? (·.1 == key)
  := by
  apply List.find?_congr
  intro b hb
  rw [lower_key (h b (List.mem_reverse.mp hb)).1]

/-- The value of an attribute of an opening tag is the last one that is written for it. -/
theorem get?_tag {word : Text} {a : Text × Text} {as : List (Text × Text)}
    (hw : ∀ d ∈ word, isNameChar d = true) (h : ∀ b ∈ a :: as, b.1 ∈ keys ∧ '"' ∉ b.2)
    (key : Text) :
  get? ('<' :: (word ++ (written (a :: as) ++ ['>']))) key
    = ((a :: as).reverse.find? (·.1 == key)).map (·.2)
  := by
  rw [get?, all_tag hw fun b hb => Writable.of_key (h b hb).1 (h b hb).2, find?_lower h]

/-- The value of a written attribute is the last one that is written for it. -/
theorem get?_written (as : List (Text × Text)) (h : ∀ b ∈ as, b.1 ∈ keys ∧ '"' ∉ b.2)
    (key : Text) :
  get? (written as) key = (as.reverse.find? (·.1 == key)).map (·.2)
  := by
  have ha := all_written_append (fun b hb => Writable.of_key (h b hb).1 (h b hb).2) []
  rw [List.append_nil, all.eq_def [], Text.collect_nil, List.append_nil] at ha
  rw [get?, ha, find?_lower h]

end Attribute

namespace Passage

/-- The opening tag of a scene or a speech has the name that is written. -/
theorem IsPlain.get?_opening {p : Passage} (h : p.IsPlain) (hp : p.attributes ≠ []) (key : Text) :
  Attribute.get? p.block.opening key = (p.attributes.reverse.find? (·.1 == key)).map (·.2)
  := by
  have hopening : p.block.opening
      = '<' :: (p.kind.tagName ++ (Attribute.written p.attributes ++ ['>'])) := by
    simp [block]
  have hword : (p.kind.tagName.all Attribute.isNameChar) = true := by
    cases p.kind <;> decide
  have hw := List.all_eq_true.mp hword
  rw [hopening]
  cases p with
  | speech name emotion text =>
      apply Attribute.get?_tag hw
      simpa [Attribute.keys] using ⟨h.1.noQuote, h.2.1.noQuote⟩
  | scene name lead beats =>
      apply Attribute.get?_tag hw
      simpa [Attribute.keys] using h.1.noQuote
  | _ => exact absurd rfl hp

end Passage

/-! ### Utterances -/

namespace Utterance

/-- What a text says is what its trimmed form says. -/
theorem ofText_eq (once : Bool) (speaker : Text) (emotion : Emotion) (raw : Text) :
  ofText once speaker emotion raw = ofTrimmed once speaker emotion raw (Text.trim raw)
  := by
  simp [ofText, ofTrimmed]

theorem ofAction_eq (speaker : Text) (emotion : Emotion) (raw : Text) :
  ofAction speaker emotion raw
    = ofTrimmed true speaker emotion raw (['('] ++ Text.trim raw ++ [')'])
  := by
  simp [ofAction, ofTrimmed]

theorem lower_action (expression text : Text) :
  Text.lower (Element.ofBeat (.action expression text)).spelling = "action"
  := by
  have h : Text.lower "action" = "action" := by decide
  apply h

theorem lower_say (text : Text) :
  Text.lower (Element.ofBeat (.say text)).spelling ≠ "action"
  := by
  have h : Text.lower "say" ≠ "action" := by decide
  apply h

/-- An element that is written as an action has its expression. -/
theorem attribute?_action {expression text : Text} (h : IsValue expression) :
  (Element.ofBeat (.action expression text)).attribute? "expression" = some expression
  := by
  have hw := Attribute.get?_written [("expression", expression)]
    (by simpa [Attribute.keys] using h.noQuote) "expression"
  rw [Attribute.written, List.flatMap_singleton] at hw
  rw [Element.attribute?, Element.ofBeat, hw]
  rfl

/-- Elements that are written as beats say what the beats say. -/
theorem ofElements_beats {speaker : Text} {emotion : Emotion} {beats : List Beat}
    (h : ∀ b ∈ beats, b.IsPlain) :
  ofElements speaker emotion (beats.map Element.ofBeat) = Beat.utterances speaker emotion beats
  := by
  induction beats generalizing emotion with
  | nil => rfl
  | cons b beats ih =>
      have ih' := fun e : Emotion => @ih e fun c hc => h c (List.mem_cons_of_mem _ hc)
      rw [List.map_cons, ofElements]
      cases b with
      | action expression text =>
          have hv := (h _ List.mem_cons_self).1
          rw [if_pos (lower_action _ _), attribute?_action hv]
          dsimp only
          rw [ofAction_eq, ih']
          rfl
      | say text =>
          rw [if_neg (lower_say _), ofText_eq, ih']
          rfl

/-- A compact scene says what its two beats say. -/
theorem ofCompact_eq (speaker : Text) (scene : Compact) :
  ofCompact speaker scene
    = Beat.utterances speaker .neutral
        [.action scene.expression scene.action, .say scene.speech]
  := by
  rw [ofCompact, ofAction_eq, ofText_eq, Beat.utterances, Beat.utterances, Beat.utterances,
    List.append_nil]

end Utterance

namespace Passage

/-- A block of a passage is trimmed. -/
theorem trim_text (p : Passage) :
  Text.trim p.block.text = p.print
  := by
  rw [print_eq_text]
  have ht : p.block.text
      = '<' :: (p.kind.tagName ++ Attribute.written p.attributes ++ ['>'] ++ p.inner
        ++ '<' :: '/' :: p.kind.tagName ++ ['>']) := by
    simp [Block.text, block]
  rw [ht]
  apply Text.trim_of_ends (by decide) (by decide)

/-- The speaker of a scene or a speech is its trimmed name in capitals. -/
theorem IsPlain.speaker_block {p : Passage} (h : p.IsPlain) (name : Text)
    (hp : (p.attributes.reverse.find? (·.1 == ("name" : Text))).map (·.2) = some name) :
  p.block.speaker = Text.upper (Text.trim name)
  := by
  have hne : p.attributes ≠ [] := by
    intro he
    simp [he] at hp
  rw [Block.speaker, h.get?_opening hne, hp]
  rfl

/-- What a block of a named speaker proposes. -/
theorem utterances_character {b : Block} {name : Text} (hk : b.kind = .character)
    (hs : b.speaker = Text.upper (Text.trim name)) :
  b.utterances =
    if Text.trim name = [] then []
    else
      match Compact.read? (Text.trim b.text) with
      | some found => Utterance.ofCompact (Text.upper (Text.trim name)) found
      | none => Utterance.ofScene (Text.upper (Text.trim name)) b.opening b.inner
  := by
  cases hr : Compact.read? (Text.trim b.text) with
  | none => simp only [Block.utterances, hk, hs, hr, List.isEmpty_iff, Text.upper_eq_nil_iff]
  | some found =>
      simp only [Block.utterances, hk, hs, hr, List.isEmpty_iff, Text.upper_eq_nil_iff]

/-- The block of a plain speech proposes what is said. -/
theorem utterances_speech {name emotion text : Text} (h : (speech name emotion text).IsPlain) :
  (speech name emotion text).block.utterances = (speech name emotion text).utterances
  := by
  have hs := h.speaker_block name rfl
  have he : Attribute.get? (speech name emotion text).block.opening "emotion" = some emotion :=
    h.get?_opening (by simp [attributes]) "emotion"
  have hc : Text.collect Element.spoken? (speech name emotion text).block.inner = [] := by
    have hn := Element.collect_beats h.2.2 (List.forall_mem_nil _)
    rw [List.flatMap_nil, List.append_nil] at hn
    apply hn
  rw [utterances_character rfl hs, trim_text, Compact.read?_speech h.1.noQuote, utterances]
  simp only [Utterance.ofScene, he, hc, Utterance.ofText_eq]
  rfl

/-- The block of a plain scene proposes what its beats say. -/
theorem utterances_scene {name lead : Text} {beats : List (Beat × Text)}
    (h : (scene name lead beats).IsPlain) :
  (scene name lead beats).block.utterances = (scene name lead beats).utterances
  := by
  have hs := h.speaker_block name rfl
  have hattr : (scene name lead beats).attributes ≠ [] := by simp [attributes]
  have he : Attribute.get? (scene name lead beats).block.opening "emotion" = none :=
    h.get?_opening hattr "emotion"
  have hx : Attribute.get? (scene name lead beats).block.opening "expression" = none :=
    h.get?_opening hattr "expression"
  rw [utterances_character rfl hs, trim_text, utterances]
  congr 1
  cases hr : Compact.read? (scene name lead beats).print with
  | some found =>
      obtain ⟨g, g', rfl⟩ := Compact.beats_of_read? h hr
      apply Utterance.ofCompact_eq
  | none =>
      have hc : Text.collect Element.spoken? (scene name lead beats).block.inner
          = (beats.map (·.1)).map Element.ofBeat := by
        rw [List.map_map]
        apply Element.collect_beats h.2.1 h.2.2.2
      have hs : Utterance.ofScene (Text.upper (Text.trim name))
          (scene name lead beats).block.opening (scene name lead beats).block.inner
            = Utterance.ofElements (Text.upper (Text.trim name)) .neutral
                ((beats.map (·.1)).map Element.ofBeat) := by
        rw [Utterance.ofScene, he, hx, hc]
        cases beats with
        | nil => exact absurd rfl h.2.2.1
        | cons b beats => rfl
      simp only [hs]
      apply Utterance.ofElements_beats
      intro b hb
      obtain ⟨p, hp, rfl⟩ := List.mem_map.mp hb
      apply (h.2.2.2 p hp).1

/-- The block of a plain record proposes what the record says. -/
theorem utterances_record {speaker emotion text : Text}
    (h : (record speaker emotion text).IsPlain) :
  (record speaker emotion text).block.utterances = (record speaker emotion text).utterances
  := by
  let fields : List Element :=
    [⟨"speaker", [], speaker⟩, ⟨"emotion", [], emotion⟩, ⟨"text", [], text⟩]
  have hc : Text.collect Element.field? (record speaker emotion text).block.inner = fields :=
    Element.collect_fields h.1 h.2.1 h.2.2
  have hl : ∀ n ∈ Element.fieldNames, Text.lower n = n := by decide
  have h₁ : Text.lower "speaker" = "speaker" := hl _ (by decide)
  have h₂ : Text.lower "emotion" = "emotion" := hl _ (by decide)
  have h₃ : Text.lower "text" = "text" := hl _ (by decide)
  have hs : Block.field? fields "speaker" = some (Text.trim speaker) := by
    simp only [fields, Block.field?, List.find?_cons, h₁]
    rfl
  have he : Block.field? fields "emotion" = some (Text.trim emotion) := by
    simp only [fields, Block.field?, List.find?_cons, h₁, h₂]
    rfl
  have ht : Block.field? fields "text" = some (Text.trim text) := by
    simp only [fields, Block.field?, List.find?_cons, h₁, h₂, h₃]
    rfl
  have hu : (record speaker emotion text).block.utterances = Block.record fields :=
    congrArg Block.record hc
  rw [hu, Block.record, hs, he, ht, Utterance.ofText_eq]
  simp only [Option.getD_some, List.isEmpty_iff, Text.upper_eq_nil_iff, Utterance.ofTrimmed,
    Text.trim_trim]
  rfl

/-- The block of a plain passage proposes what the passage says. -/
theorem IsPlain.utterances_block {p : Passage} (h : p.IsPlain) :
  p.block.utterances = p.utterances
  := by
  cases p with
  | narration text => apply Utterance.ofText_eq
  | speech name emotion text => apply utterances_speech h
  | scene name lead beats => apply utterances_scene h
  | record speaker emotion text => apply utterances_record h
  | choices lead options => rfl

/-! ### Choices -/

/-- The choice of an element that is written as an option. -/
theorem choiceOf?_option {c : Choice} (h : c.IsPlain) :
  Block.choiceOf? (Element.ofChoice c)
    = if Text.trim c.id = [] then none else some ⟨Text.trim c.id, Text.trim c.text, c.disabled⟩
  := by
  have hk : ∀ a ∈ Element.optionAttributes c, a.1 ∈ Attribute.keys ∧ '"' ∉ a.2 := by
    have hq := h.1.noQuote
    cases hc : c.disabled <;> simp [Element.optionAttributes, Attribute.keys, hc, hq]
  have hid : (Element.ofChoice c).attribute? "id" = some c.id := by
    rw [Element.attribute?, Element.ofChoice, Attribute.get?_written _ hk]
    cases hc : c.disabled
    · rw [Element.optionAttributes, hc]
      rfl
    · rw [Element.optionAttributes, hc]
      rfl
  have hdis : (Element.ofChoice c).attribute? "disabled"
      = if c.disabled then some ("true" : Text) else none := by
    rw [Element.attribute?, Element.ofChoice, Attribute.get?_written _ hk]
    cases hc : c.disabled
    · rw [Element.optionAttributes, hc]
      rfl
    · rw [Element.optionAttributes, hc]
      rfl
  have htrue : Text.lower (Text.trim "true") = "true" := by decide
  have hnone : (Text.lower (Text.trim []) == ("true" : Text)) = false := by decide
  rw [Block.choiceOf?, hid, hdis]
  simp only [Option.getD_some, List.isEmpty_iff]
  cases c.disabled
  · simp only [Bool.false_eq_true, if_false, Option.getD_none, hnone]
    rfl
  · simp only [if_true, Option.getD_some, htrue, beq_self_eq_true]
    rfl

/-- The block of a plain passage lists what the passage offers. -/
theorem IsPlain.choices_block {p : Passage} (h : p.IsPlain) :
  p.block.choices = p.offers
  := by
  cases p with
  | choices lead options =>
      have hc : Text.collect Element.choice? (choices lead options).block.inner
          = options.map fun o => Element.ofChoice o.1 :=
        Element.collect_options h.1 h.2
      have hb : (choices lead options).block.choices
          = (options.map fun o => Element.ofChoice o.1).filterMap Block.choiceOf? :=
        congrArg (List.filterMap Block.choiceOf?) hc
      rw [hb, List.filterMap_map, offers, ← List.filterMap_eq_filter, List.map_filterMap]
      apply List.filterMap_congr
      intro o ho
      rw [Function.comp_apply, choiceOf?_option (h.2 o ho).1]
      by_cases hi : Text.trim o.1.id = [] <;> simp [hi, Option.guard]
  | _ => rfl

end Passage

end BranchingStory
