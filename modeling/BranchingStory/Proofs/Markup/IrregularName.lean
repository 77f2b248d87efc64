import BranchingStory.Proofs.Markup.Fallback
import BranchingStory.Proofs.Markup.SiteScan

/-!
# Irregular names

A name in a tag may be spelled with characters that fold to a letter of the name but do not
become it in small letters: the long s, the dotless i and the capital i with a dot.  A parser
whose tail limit is a count, or that has none, is at fault exactly where such a spelling
stands in a whole opening tag of the text fed since the last reset, and for no other reason:
`Parser.stepEach_isOk_iff`.
-/

namespace BranchingStory

/-! ### Spellings in small letters -/

namespace TagName

/-- The characters that spell a letter of a name but do not become it in small letters. -/
def strayLetters : List Char := ['\u017f', '\u0131', '\u0130']

/-- A capital letter of ASCII becomes its plain form in small letters. -/
theorem lowerChar_capital {c : Char} (h : 65 ≤ c.toNat ∧ c.toNat ≤ 90) :
  lowerChar c = [plainForm c]
  := by
  have hall : ∀ n < 26, lowerChar (Char.ofNat (65 + n)) = [Char.ofNat (65 + n + 32)] := by
    decide
  have hn := hall (c.toNat - 65) (by omega)
  rw [Nat.add_sub_cancel' h.1, Char.ofNat_toNat] at hn
  rw [hn, plainForm, if_pos h]

/-- The letters of the names of blocks are small letters, and none of them is a k. -/
theorem lowerChar_name (k : BlockKind) :
  (k.name.all fun a => lowerChar a = [a] ∧ a ≠ 'k') = true
  := by
  cases k <;> decide

/-- A character that spells a letter and is not stray has the letter as its plain form. -/
theorem plainForm_of_spells {a c : Char} (hc : spells a c = true) (hs : c ∉ strayLetters) :
  plainForm c = a
  := by
  simp only [strayLetters, List.mem_cons, List.not_mem_nil, or_false, not_or] at hs
  simpa [spells, hs.1, hs.2.1] using hc

/-- A character that spells a small letter other than k and is not stray becomes the letter in
small letters, whatever stands around it. -/
theorem lowerBetween_of_spells {a c : Char} (ha : lowerChar a = [a] ∧ a ≠ 'k')
    (hc : spells a c = true) (hs : c ∉ strayLetters) (before after : Text) :
  Text.lowerBetween before c after = [a]
  := by
  obtain ⟨hsmall, hk⟩ := ha
  have hplain := plainForm_of_spells hc hs
  simp only [strayLetters, List.mem_cons, List.not_mem_nil, or_false, not_or] at hs
  have hlower : lowerChar c = [a] := by
    by_cases hcapital : 65 ≤ c.toNat ∧ c.toNat ≤ 90
    · rw [lowerChar_capital hcapital, hplain]
    · rw [plainForm, if_neg hcapital] at hplain
      split_ifs at hplain with hkelvin hdotted
      · exact absurd hplain.symm hk
      · exact absurd hdotted hs.2.2
      · rw [hplain, hsmall]
  have hsigma : c ≠ Text.capitalSigma := by
    rintro rfl
    have hfold : plainForm Text.capitalSigma = Text.capitalSigma
        ∧ lowerChar Text.capitalSigma ≠ [Text.capitalSigma] := by
      decide
    rw [← hplain, hfold.1] at hsmall
    exact hfold.2 hsmall
  rw [Text.lowerBetween, if_neg hsigma, hlower]

/-- A spelling without stray letters becomes the name in small letters. -/
theorem lowerFrom_of_spelled {name spelling : Text} (h : Spelled name spelling)
    (hn : (name.all fun a => lowerChar a = [a] ∧ a ≠ 'k') = true)
    (hs : ∀ c ∈ spelling, c ∉ strayLetters) (before : Text) :
  Text.lowerFrom before spelling = name
  := by
  induction h generalizing before with
  | nil => rfl
  | @cons a c name spelling hc _ ih =>
      rw [List.all_cons, Bool.and_eq_true, decide_eq_true_iff] at hn
      rw [List.forall_mem_cons] at hs
      rw [Text.lowerFrom, lowerBetween_of_spells hn.1 hc hs.1, ih hn.2 hs.2]
      rfl

/-- A stray letter leaves a character in small letters that is in no name. -/
theorem exists_mem_lowerBetween {c : Char} (h : c ∈ strayLetters) (before after : Text) :
  ∃ d ∈ Text.lowerBetween before c after, ∀ k : BlockKind, d ∉ k.name
  := by
  have hletters : ∀ c ∈ strayLetters, c ≠ Text.capitalSigma
      ∧ ((lowerChar c).any fun d => BlockKind.all.all fun k => !k.name.contains d) = true := by
    simp only [strayLetters, List.forall_mem_cons]
    exact ⟨by decide, by decide, by decide, nofun⟩
  obtain ⟨hsigma, hany⟩ := hletters c h
  obtain ⟨d, hd, hk⟩ := List.any_eq_true.mp hany
  rw [Text.lowerBetween, if_neg hsigma]
  refine ⟨d, hd, fun k hmem => ?_⟩
  have hkind : k ∈ BlockKind.all := by cases k <;> decide
  have hname := List.all_eq_true.mp hk k hkind
  simp [hmem] at hname

/-- Every character of a text leaves its small form in the text in small letters. -/
theorem exists_lowerBetween_subset {c : Char} {t : Text} (h : c ∈ t) (before : Text) :
  ∃ front after, ∀ d ∈ Text.lowerBetween front c after, d ∈ Text.lowerFrom before t
  := by
  induction t generalizing before with
  | nil => cases h
  | cons e t ih =>
      rw [Text.lowerFrom]
      obtain rfl | h := List.mem_cons.mp h
      · exact ⟨before, t, fun d hd => List.mem_append_left _ hd⟩
      · obtain ⟨front, after, hsubset⟩ := ih h (e :: before)
        exact ⟨front, after, fun d hd => List.mem_append_right _ (hsubset d hd)⟩

end TagName

namespace Opener

/-- A name is regular exactly when no stray letter is in its spelling. -/
theorem isRegular_iff {o : Opener} (h : TagName.Spelled o.kind.name o.spelling) :
  o.isRegular = true ↔ ∀ c ∈ o.spelling, c ∉ TagName.strayLetters
  := by
  rw [isRegular, beq_iff_eq, Text.lower]
  constructor
  · intro hlower c hc hstray
    obtain ⟨front, after, hsubset⟩ := TagName.exists_lowerBetween_subset hc []
    obtain ⟨d, hd, hnot⟩ := TagName.exists_mem_lowerBetween hstray front after
    apply hnot o.kind
    rw [← hlower]
    apply hsubset d hd
  · intro hs
    apply TagName.lowerFrom_of_spelled h (TagName.lowerChar_name _) hs

/-- The opener of an opening tag that is whole, up to its closing angle bracket and without
another one before it, and whose name is spelled with a stray letter. -/
def IsStray (o : Opener) : Prop :=
  (∃ c ∈ o.spelling, c ∈ TagName.strayLetters)
    ∧ ∃ attributes body, Text.cutAt? '>' o.rest = some (attributes, body) ∧ '<' ∉ attributes

variable {t attributes body : Text} {o : Opener}

theorem isStray_iff (ho : at? t = some o)
    (hcut : Text.cutAt? '>' o.rest = some (attributes, body)) :
  o.IsStray ↔ '<' ∉ attributes ∧ o.isRegular = false
  := by
  obtain ⟨-, hspelled, -⟩ := at?_eq_some_iff.mp ho
  rw [← Bool.not_eq_true, isRegular_iff hspelled, IsStray, hcut]
  constructor
  · rintro ⟨⟨c, hc, hstray⟩, attributes', body', he, hlt⟩
    obtain ⟨rfl, rfl⟩ := Prod.mk.inj (Option.some.inj he)
    exact ⟨hlt, fun hs => hs c hc hstray⟩
  · rintro ⟨hlt, hs⟩
    refine ⟨?_, attributes, body, rfl, hlt⟩
    by_contra hno
    exact hs fun c hc hstray => hno ⟨c, hc, hstray⟩

end Opener

/-! ### Stray tags -/

namespace Text

/-- A whole opening tag whose name is spelled with a stray letter stands in a text. -/
def HasStrayTag (t : Text) : Prop :=
  ∃ n o, Opener.at? (t.drop n) = some o ∧ o.IsStray

variable {t u rest attributes body : Text} {o : Opener}

/-- A front part in which no opener starts does not matter. -/
theorem hasStrayTag_append (hu : ∀ j < u.length, Opener.at? ((u ++ t).drop j) = none) :
  HasStrayTag (u ++ t) ↔ HasStrayTag t
  := by
  constructor
  · rintro ⟨n, o, ho, hstray⟩
    have hle : u.length ≤ n := by
      by_contra hlt
      rw [hu n (by omega)] at ho
      cases ho
    obtain ⟨i, rfl⟩ := Nat.exists_eq_add_of_le hle
    rw [List.drop_length_add_append] at ho
    exact ⟨i, o, ho, hstray⟩
  · rintro ⟨n, o, ho, hstray⟩
    exact ⟨u.length + n, o, by rw [List.drop_length_add_append]; exact ho, hstray⟩

theorem not_hasStrayTag_of_find? (h : Opener.find? t = none) :
  ¬ HasStrayTag t
  := by
  rintro ⟨n, o, ho, -⟩
  rw [Opener.at?_drop_of_find? h] at ho
  cases ho

/-- At an opener, a stray tag is that of the opener or stands behind its name. -/
theorem hasStrayTag_iff_of_at? (ho : Opener.at? t = some o) :
  HasStrayTag t ↔ o.IsStray ∨ HasStrayTag o.rest
  := by
  obtain ⟨rfl, hs, -⟩ := Opener.at?_eq_some_iff.mp ho
  have hname : HasStrayTag (o.spelling ++ o.rest) ↔ HasStrayTag o.rest :=
    hasStrayTag_append (Opener.at?_drop_of_notMem
      (hs.notMem (Or.inl rfl) (BlockKind.notMem_name _ (Or.inl rfl))) o.rest)
  rw [← hname]
  constructor
  · rintro ⟨n, o', ho', hstray⟩
    cases n with
    | zero =>
        rw [List.drop_zero, ho] at ho'
        exact Or.inl (Option.some.inj ho' ▸ hstray)
    | succ n => exact Or.inr ⟨n, o', ho', hstray⟩
  · rintro (hstray | ⟨n, o', ho', hstray⟩)
    · exact ⟨0, o, ho, hstray⟩
    · exact ⟨n + 1, o', ho', hstray⟩

/-- A stray tag needs a closing angle bracket. -/
theorem HasStrayTag.mem (h : HasStrayTag t) :
  '>' ∈ t
  := by
  obtain ⟨n, o, ho, -, attributes, body, hcut, -⟩ := h
  obtain ⟨he, -, -⟩ := Opener.at?_eq_some_iff.mp ho
  have hrest := (cutAt?_eq_some_iff.mp hcut).1
  apply List.mem_of_mem_drop (i := n)
  simp [he, hrest]

/-- Behind an opening tag without another one inside the stray tags are those of the body. -/
theorem hasStrayTag_of_cutAt? (hcut : cutAt? '>' t = some (attributes, body))
    (hlt : '<' ∉ attributes) :
  HasStrayTag t ↔ HasStrayTag body
  := by
  obtain ⟨rfl, -⟩ := cutAt?_eq_some_iff.mp hcut
  rw [List.append_cons]
  apply hasStrayTag_append
  apply Opener.at?_drop_of_notMem
  simpa using hlt

/-- A block holds no stray tag in front of its end. -/
theorem hasStrayTag_of_closed {k : BlockKind} {inner closing : Text}
    (h : Ending.of k t = .closed inner closing rest) :
  HasStrayTag t ↔ HasStrayTag rest
  := by
  have hno := Ending.at?_drop_of_closed h
  rw [(Ending.of_eq_closed_iff.mp h).text, ← List.append_assoc]
  exact hasStrayTag_append hno

end Text

/-! ### What the scanner meets -/

namespace Sight

open Text

variable {t rest : Text} {o : Opener}

/-- Where the scanner waits at an opener there is no stray tag. -/
theorem not_hasStrayTag_of_waits (ho : Opener.at? t = some o) (h : ofOpener o = .waits) :
  ¬ HasStrayTag t
  := by
  rw [hasStrayTag_iff_of_at? ho, not_or]
  simp only [ofOpener] at h
  split at h
  · next hcut =>
    constructor
    · rintro ⟨-, attributes, body, hsome, -⟩
      rw [hcut] at hsome
      cases hsome
    · intro hstray
      apply notMem_of_cutAt? hcut hstray.mem
  · next attributes body hcut =>
    split_ifs at h with hlt hreg
    rw [Opener.isStray_iff ho hcut, hasStrayTag_of_cutAt? hcut (by simpa using hlt)]
    refine ⟨fun hstray => ?_, ?_⟩
    · simp [hstray.2] at hreg
    · cases he : Ending.of o.kind body with
      | unfinished =>
          rintro ⟨n, o', ho', -⟩
          rw [Ending.at?_drop_of_unfinished he] at ho'
          cases ho'
      | interrupted => simp [he, ofBody] at h
      | closed => simp [he, ofBody] at h

/-- Where the scanner gives up at an opener its tag is stray. -/
theorem isStray_of_irregular (ho : Opener.at? t = some o) (h : ofOpener o = .irregular) :
  o.IsStray
  := by
  simp only [ofOpener] at h
  split at h
  · cases h
  · next attributes body hcut =>
    split_ifs at h with hlt hreg
    · rw [Opener.isStray_iff ho hcut]
      exact ⟨by simpa using hlt, by simpa using hreg⟩
    · cases he : Ending.of o.kind body <;> simp [he, ofBody] at h

/-- Where the scanner passes over an opener its tag is not stray. -/
theorem not_isStray_of_passes (ho : Opener.at? t = some o) (h : ofOpener o = .passes rest) :
  ¬ o.IsStray
  := by
  simp only [ofOpener] at h
  split at h
  · cases h
  · next attributes body hcut =>
    rw [Opener.isStray_iff ho hcut]
    rintro ⟨hlt, hirregular⟩
    simp [hlt, hirregular] at h

/-- Where the scanner takes a block the stray tags stand behind it. -/
theorem hasStrayTag_of_finishes {b : Block} (ho : Opener.at? t = some o)
    (h : ofOpener o = .finishes b rest) :
  HasStrayTag t ↔ HasStrayTag rest
  := by
  simp only [ofOpener] at h
  split at h
  · cases h
  · next attributes body hcut =>
    split_ifs at h with hlt hreg
    cases he : Ending.of o.kind body <;> simp only [he, ofBody, reduceCtorEq] at h
    next inner closing rest' =>
    obtain ⟨-, rfl⟩ := Sight.finishes.inj h
    rw [hasStrayTag_iff_of_at? ho, Opener.isStray_iff ho hcut,
      hasStrayTag_of_cutAt? hcut (by simpa using hlt), hasStrayTag_of_closed he]
    simp only [Bool.not_eq_true', Bool.not_eq_false] at hreg
    simp [hreg]

end Sight

/-- A scan meets an irregular name exactly when the text has a stray tag. -/
theorem Block.scanFrom_irregular_iff (kept t : Text) :
  (scanFrom kept t).irregular = true ↔ Text.HasStrayTag t
  := by
  induction hn : t.length using Nat.strongRecOn generalizing kept t with
  | ind n ih =>
      subst hn
      rw [scanFrom_eq]
      cases ho : Opener.find? t with
      | none =>
          have hs : Sight.of t = .waits := by rw [Sight.of, ho]
          simp [hs, Text.not_hasStrayTag_of_find? ho]
      | some o =>
          have hsight : Sight.of t = Sight.ofOpener o := by rw [Sight.of, ho]
          -- The text in front of the first opener does not matter.
          obtain ⟨v, hv, hat, hno⟩ := Opener.exists_of_find? ho
          rw [hv] at hno
          have hfront := Text.hasStrayTag_append hno
          rw [← hv] at hfront
          rw [hv, List.drop_left] at hat
          rw [hfront]
          cases hs : Sight.ofOpener o with
          | waits =>
              rw [hsight, hs]
              simp [Sight.not_hasStrayTag_of_waits hat hs]
          | irregular =>
              rw [hsight, hs, Text.hasStrayTag_iff_of_at? hat]
              simp [Sight.isStray_of_irregular hat hs]
          | passes rest =>
              rw [hsight, hs, Text.hasStrayTag_iff_of_at? hat]
              simp only [Sight.not_isStray_of_passes hat hs, false_or]
              rw [← Sight.rest_of_passes hs]
              apply ih _ (Sight.length_of_passes (hsight.trans hs)) _ _ rfl
          | finishes b rest =>
              rw [hsight, hs, Sight.hasStrayTag_of_finishes hat hs]
              apply ih _ (Sight.length_of_finishes (hsight.trans hs)) _ _ rfl

theorem Block.scan_irregular_iff (t : Text) :
  (scan t).irregular = true ↔ Text.HasStrayTag t
  := scanFrom_irregular_iff t t

/-- A stray tag stays one whatever text follows. -/
theorem Text.HasStrayTag.append {t : Text} (h : HasStrayTag t) (u : Text) :
  HasStrayTag (t ++ u)
  := by
  rw [← Block.scan_irregular_iff] at h ⊢
  apply Block.scan_irregular h

/-! ### Runs of a parser -/

namespace Parser

/-- A step of a run: a piece is fed, or the parser is reset. -/
inductive Step where
  | feed (piece : Text)
  | reset
  deriving Repr, DecidableEq

/-- What a step gives, and the parser afterwards. -/
def step (p : Parser) : Step → Except Fault (List Segment) × Parser
  | .feed piece => p.feed piece
  | .reset => (.ok [], p.reset)

/-- Takes steps one after another and goes on behind a fault: what each of them gives, and the
parser afterwards. -/
def stepEach : Parser → List Step → List (Except Fault (List Segment)) × Parser
  | p, [] => ([], p)
  | p, s :: steps =>
    let (outcome, p) := step p s
    let (outcomes, p) := stepEach p steps
    (outcome :: outcomes, p)

/-- The texts that are fed from one reset to the next, the first of them behind what was fed
earlier. -/
def Step.texts : (earlier : Text) → List Step → List Text
  | t, [] => [t]
  | t, .feed piece :: steps => texts (t ++ piece) steps
  | t, .reset :: steps => t :: texts [] steps

variable {limit : Option Int} {p : Parser} {t : Text}

/-- A parser with a limit of so many characters that keeps what a scan leaves of the text fed
since the last reset. -/
structure Follows (limit : Option Int) (p : Parser) (t : Text) : Prop where
  limit : p.limit = .upTo limit
  pending : p.pending = (Block.scan t).rest

theorem follows_new (limit : Option Int) (defaults : List Choice) :
  Follows limit (new (.upTo limit) defaults) []
  := by
  refine ⟨rfl, ?_⟩
  rw [Block.scan, Block.scanFrom_eq]
  rfl

/-- A reset forgets the text. -/
theorem Follows.reset (h : Follows limit p t) :
  Follows limit p.reset []
  := by
  rw [Parser.reset, h.limit]
  apply follows_new

/-- A piece is at fault exactly when there is a stray tag in all that was fed since the last
reset, and the parser goes on from there. -/
theorem Follows.feed (h : Follows limit p t) (piece : Text) :
  ((p.feed piece).1.isOk = true ↔ ¬ Text.HasStrayTag (t ++ piece))
    ∧ Follows limit (p.feed piece).2 (t ++ piece)
  := by
  have hp : p = offering (.upTo limit) false { p with limit := .off } := by
    rw [offering_false, ← h.limit]
  have hscan := Block.scan_append t piece
  rw [hp, feed_offering rfl, feed_off rfl]
  dsimp only
  rw [h.pending, ← Block.scan_irregular_iff, hscan]
  refine ⟨?_, ?_, ?_⟩
  · rw [Scan.after]
    split_ifs with hirregular <;> simp [hirregular, Except.isOk, Except.toBool]
  · apply limit_offering
  · rw [hscan]
    apply pending_offering

/-- All steps of a run are without a fault, and the text from before it without a stray tag,
exactly when none of the texts fed from one reset to the next has one. -/
theorem Follows.stepEach (h : Follows limit p t) (steps : List Step) :
  (¬ Text.HasStrayTag t ∧ ∀ outcome ∈ (p.stepEach steps).1, outcome.isOk = true)
    ↔ ∀ u ∈ Step.texts t steps, ¬ Text.HasStrayTag u
  := by
  induction steps generalizing p t with
  | nil => simp [Parser.stepEach, Step.texts]
  | cons s steps ih =>
      simp only [Parser.stepEach, List.forall_mem_cons]
      cases s with
      | feed piece =>
          obtain ⟨hok, hfollows⟩ := h.feed piece
          rw [Step.texts, ← ih hfollows, step, hok]
          constructor
          · exact And.right
          · rintro ⟨hpiece, hrest⟩
            exact ⟨fun hstray => hpiece (hstray.append piece), hpiece, hrest⟩
      | reset =>
          have hempty : ¬ Text.HasStrayTag [] := fun hstray => by cases hstray.mem
          rw [Step.texts, List.forall_mem_cons, ← ih h.reset, step]
          simp only [hempty, not_false_eq_true, true_and]
          exact and_congr_right fun _ => and_iff_right rfl

/-- Whatever the limit of so many characters, or none, and whatever the default choices: no
step of a run is at fault exactly when no text that is fed from one reset to the next has a
stray tag. -/
theorem stepEach_isOk_iff (limit : Option Int) (defaults : List Choice) (steps : List Step) :
  (∀ outcome ∈ (stepEach (new (.upTo limit) defaults) steps).1, outcome.isOk = true)
    ↔ ∀ t ∈ Step.texts [] steps, ¬ Text.HasStrayTag t
  := by
  have hempty : ¬ Text.HasStrayTag [] := fun hstray => by cases hstray.mem
  rw [← (follows_new limit defaults).stepEach steps, and_iff_right hempty]

/-- A parser is at fault at a block whose name begins with a long s. -/
theorem feed_long_s :
  (feed (new defaultLimit defaultChoices) "<\u017fegment>").1 = .error .irregularName
  := by
  decide +kernel

end Parser

end BranchingStory
