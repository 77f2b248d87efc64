import BranchingStory.Proofs.Markup.Site

/-!
# The scanner finds the sites

Whatever the scanner meets first, no site is lost by what it does next: where it waits
there is none, where it passes over an opening none starts there, and where it takes a
block that is the first of them and the others start behind it.  A scan that meets no
irregular name takes the blocks of exactly the sites, in their order.
-/

namespace BranchingStory

/-- A text that is not cut at a character does not have it. -/
theorem Text.notMem_of_cutAt? {c : Char} {t : Text} (h : Text.cutAt? c t = none) :
  c ∉ t
  := by
  intro hc
  obtain ⟨before, after, ht, hb⟩ := List.eq_append_cons_of_mem hc
  rw [Text.cutAt?_eq_some_iff.mpr ⟨ht, hb⟩] at h
  simp at h

namespace Site

theorem shift_shift (s : Site) (d e : Nat) :
  (s.shift d).shift e = s.shift (e + d)
  := by
  simp only [shift, Nat.add_assoc]

/-- A site of a text whose front part holds no opener is a site of the other part. -/
theorem StandsIn.skip {u t : Text} {s : Site} (h : s.StandsIn (u ++ t))
    (hu : ∀ j < u.length, Opener.at? ((u ++ t).drop j) = none) :
  ∃ s' : Site, s'.StandsIn t ∧ s = s'.shift u.length
  := h.of_append (h.le_start hu)

/-! ### At an opener -/

/-- A site starts at the opener in front, or behind the name of that. -/
theorem StandsIn.start_cases {t : Text} {s : Site} {o : Opener} (ho : Opener.at? t = some o)
    (h : s.StandsIn t) :
  s.start = 0 ∨ ∃ s' : Site, s'.StandsIn o.rest ∧ s = s'.shift ('<' :: o.spelling).length
  := by
  obtain ⟨rfl, hs, -⟩ := Opener.at?_eq_some_iff.mp ho
  cases hz : s.start with
  | zero =>
      left
      rfl
  | succ n =>
      right
      obtain ⟨s₁, h₁, rfl⟩ := h.of_append (u := ['<']) (t := o.spelling ++ o.rest) (by simp [hz])
      obtain ⟨s₂, h₂, rfl⟩ := h₁.skip (Opener.at?_drop_of_notMem
        (hs.notMem (Or.inl rfl) (BlockKind.notMem_name _ (Or.inl rfl))) o.rest)
      use s₂, h₂
      rw [shift_shift, List.length_singleton, List.length_cons, Nat.add_comm]

/-- The parts of the block at a site that starts at the opener in front. -/
theorem StandsIn.parts {t : Text} {s : Site} {o : Opener} (h : s.StandsIn t)
    (ho : Opener.at? t = some o) (hz : s.start = 0) :
  ∃ attributes body inner closing rest, Text.cutAt? '>' o.rest = some (attributes, body)
    ∧ '<' ∉ attributes ∧ Ending.of o.kind body = .closed inner closing rest
    ∧ s = ofParts 0 o attributes inner closing
  := by
  obtain ⟨o', attributes, body, inner, closing, rest, ho', hcut, hlt, hend, hs⟩ :=
    standsIn_iff.mp h
  rw [hz] at ho' hs
  rw [List.drop_zero, ho] at ho'
  obtain rfl := Option.some.inj ho'
  exact ⟨attributes, body, inner, closing, rest, hcut, hlt, hend, hs⟩

/-- A site needs a closing angle bracket. -/
theorem StandsIn.mem {t : Text} {s : Site} (h : s.StandsIn t) :
  '>' ∈ t
  := by
  obtain ⟨-, -, -, ⟨-, hgt, -⟩, -⟩ := h
  apply List.mem_of_getElem? hgt

/-- Behind an opening tag without an angle bracket inside the sites are those of the body. -/
theorem StandsIn.skip_tag {t attributes body : Text} {s : Site}
    (hcut : Text.cutAt? '>' t = some (attributes, body)) (hlt : '<' ∉ attributes)
    (h : s.StandsIn t) :
  ∃ s' : Site, s'.StandsIn body ∧ s = s'.shift (attributes ++ ['>']).length
  := by
  obtain ⟨rfl, -⟩ := Text.cutAt?_eq_some_iff.mp hcut
  rw [List.append_cons] at h
  apply h.skip (Opener.at?_drop_of_notMem _ body)
  simpa using hlt

/-- Where the scanner waits at an opener there is no site. -/
theorem not_standsIn_of_waits {t : Text} {o : Opener} (ho : Opener.at? t = some o)
    (h : Sight.ofOpener o = .waits) (s : Site) :
  ¬ s.StandsIn t
  := by
  intro hst
  simp only [Sight.ofOpener] at h
  obtain hz | ⟨s', hs', rfl⟩ := hst.start_cases ho
  · obtain ⟨attributes, body, inner, closing, rest, hcut, hlt, hend, -⟩ := hst.parts ho hz
    simp only [hcut, hend] at h
    split_ifs at h
    simp [Sight.ofBody] at h
  · split at h
    · next hcut => apply Text.notMem_of_cutAt? hcut hs'.mem
    · next attributes body hcut =>
      split_ifs at h with hlt
      cases he : Ending.of o.kind body with
      | unfinished =>
          obtain ⟨s₂, h₂, rfl⟩ := hs'.skip_tag hcut (by simpa using hlt)
          apply h₂.at?_ne_none (Ending.at?_drop_of_unfinished he _)
      | interrupted => simp [he, Sight.ofBody] at h
      | closed => simp [he, Sight.ofBody] at h

/-- Where the scanner passes over an opener the sites stand behind its name. -/
theorem StandsIn.of_passes {t rest : Text} {o : Opener} {s : Site} (hst : s.StandsIn t)
    (ho : Opener.at? t = some o) (h : Sight.ofOpener o = .passes rest) :
  ∃ s' : Site, s'.StandsIn rest ∧ s = s'.shift ('<' :: o.spelling).length
  := by
  have hrest := Sight.rest_of_passes h
  simp only [Sight.ofOpener] at h
  split at h
  · simp at h
  · next attributes body hcut =>
    obtain hz | hs' := hst.start_cases ho
    · obtain ⟨attributes', body', inner, closing, rest', hcut', hlt, hend, -⟩ := hst.parts ho hz
      rw [hcut] at hcut'
      obtain ⟨rfl, rfl⟩ := Prod.mk.inj (Option.some.inj hcut')
      simp only [hend, Sight.ofBody] at h
      split_ifs at h with hc
      simp at hc
      exact absurd hc hlt
    · rw [hrest]
      apply hs'

/-- The block at a site whose positions are those of three parts of a text. -/
theorem block_of_parts {s : Site} {opening inner closing rest : Text} (h₀ : s.start = 0)
    (h₁ : s.tagEnd + 1 = opening.length) (h₂ : s.close = opening.length + inner.length)
    (h₃ : s.stop = s.close + closing.length) :
  s.block (opening ++ (inner ++ (closing ++ rest))) = ⟨s.kind, opening, inner, closing⟩
  := by
  simp only [block, List.extract_eq_take_drop, h₀, h₁, h₂, h₃, Block.mk.injEq, true_and]
  refine ⟨by simp, by simp, ?_⟩
  rw [← List.drop_drop, List.drop_left, List.drop_left, Nat.add_sub_cancel_left, List.take_left]

/-- Where the scanner takes a block there is the first site, and the others stand behind
it. -/
theorem exists_of_finishes {t rest : Text} {o : Opener} {b : Block} (ho : Opener.at? t = some o)
    (h : Sight.ofOpener o = .finishes b rest) :
  ∃ s₀ : Site, t = b.text ++ rest ∧ s₀.StandsIn t ∧ s₀.block t = b ∧ s₀.stop = b.text.length
    ∧ ∀ s : Site, s.StandsIn t → s = s₀ ∨ ∃ s' : Site, s'.StandsIn rest
        ∧ s = s'.shift b.text.length
  := by
  simp only [Sight.ofOpener] at h
  split at h
  · simp at h
  · next attributes body hcut =>
    split_ifs at h with hlt hreg
    cases hend : Ending.of o.kind body <;> simp only [hend, Sight.ofBody, reduceCtorEq] at h
    next inner closing rest' =>
    obtain ⟨rfl, rfl⟩ := Sight.finishes.inj h
    obtain ⟨rfl, hs, -⟩ := Opener.at?_eq_some_iff.mp ho
    have hst : (ofParts 0 o attributes inner closing).StandsIn ('<' :: (o.spelling ++ o.rest)) :=
      standsIn_iff.mpr
        ⟨o, attributes, body, inner, closing, rest', ho, hcut, by simpa using hlt, hend, rfl⟩
    have hrest := (Text.cutAt?_eq_some_iff.mp hcut).1
    have hbody := (Ending.of_eq_closed_iff.mp hend).text
    have htext : '<' :: (o.spelling ++ o.rest)
        = ('<' :: o.spelling ++ attributes ++ ['>']) ++ (inner ++ (closing ++ rest')) := by
      simp [hrest, hbody]
    refine ⟨ofParts 0 o attributes inner closing, by simp [htext, Block.text], hst, ?_, ?_, ?_⟩
    · rw [htext]
      apply block_of_parts rfl
      · simp [ofParts, Nat.add_comm, Nat.add_left_comm]
      · simp [ofParts, Nat.add_comm, Nat.add_left_comm]
      · simp [ofParts]
    · simp only [ofParts, Block.text, List.length_append, List.length_cons, List.length_nil]
      omega
    · intro s hs'
      obtain hz | ⟨s₁, h₁, rfl⟩ := hs'.start_cases ho
      · left
        obtain ⟨attributes', body', inner', closing', rest'', hcut', -, hend', rfl⟩ :=
          hs'.parts ho hz
        rw [hcut] at hcut'
        obtain ⟨rfl, rfl⟩ := Prod.mk.inj (Option.some.inj hcut')
        rw [hend] at hend'
        obtain ⟨rfl, rfl, rfl⟩ := Ending.closed.inj hend'
        rfl
      · right
        obtain ⟨s₂, h₂, rfl⟩ := h₁.skip_tag hcut (by simpa using hlt)
        rw [hbody, ← List.append_assoc] at h₂
        obtain ⟨s₃, h₃, rfl⟩ := h₂.skip (Ending.at?_drop_of_closed hend)
        use s₃, h₃
        rw [shift_shift, shift_shift]
        simp [Block.text, Nat.add_comm, Nat.add_left_comm]

/-! ### From a cursor on -/

/-- The block at a site that was moved is the block at the site. -/
theorem block_shift (u t : Text) (s : Site) :
  (s.shift u.length).block (u ++ t) = s.block t
  := by
  simp only [block, shift, List.extract_eq_take_drop, Nat.add_assoc, List.drop_length_add_append,
    Nat.add_sub_add_left]

/-- Where the scanner waits there is no site. -/
theorem not_standsIn_of_sight {t : Text} (h : Sight.of t = .waits) (s : Site) :
  ¬ s.StandsIn t
  := by
  intro hst
  simp only [Sight.of] at h
  split at h
  · next ho => apply hst.at?_ne_none (Opener.at?_drop_of_find? ho _)
  · next o ho =>
    obtain ⟨v, rfl, ho', hno⟩ := Opener.exists_of_find? ho
    obtain ⟨s', hs', -⟩ := hst.skip hno
    rw [List.drop_left] at ho'
    apply not_standsIn_of_waits ho' h s' hs'

/-- Where the scanner passes over an opening all sites stand behind it. -/
theorem exists_of_sight_passes {t rest : Text} (h : Sight.of t = .passes rest) :
  ∃ u, t = u ++ rest ∧ ∀ s : Site, s.StandsIn t → ∃ s' : Site, s'.StandsIn rest
    ∧ s = s'.shift u.length
  := by
  simp only [Sight.of] at h
  split at h
  · simp at h
  · next o ho =>
    obtain ⟨v, rfl, ho', hno⟩ := Opener.exists_of_find? ho
    rw [List.drop_left] at ho'
    use v ++ '<' :: o.spelling
    constructor
    · rw [Sight.rest_of_passes h]
      simp
    · intro s hst
      obtain ⟨s₁, h₁, rfl⟩ := hst.skip hno
      obtain ⟨s₂, h₂, rfl⟩ := h₁.of_passes ho' h
      use s₂, h₂
      rw [shift_shift, List.length_append]

/-- Where the scanner takes a block there is the first site, and the others stand behind
it. -/
theorem exists_of_sight_finishes {t rest : Text} {b : Block} (h : Sight.of t = .finishes b rest) :
  ∃ u, ∃ s₀ : Site, t = u ++ rest ∧ s₀.StandsIn t ∧ s₀.block t = b ∧ s₀.stop = u.length
    ∧ ∀ s : Site, s.StandsIn t → s = s₀ ∨ ∃ s' : Site, s'.StandsIn rest
        ∧ s = s'.shift u.length
  := by
  simp only [Sight.of] at h
  split at h
  · simp at h
  · next o ho =>
    obtain ⟨v, rfl, ho', hno⟩ := Opener.exists_of_find? ho
    rw [List.drop_left] at ho'
    obtain ⟨s₀, htext, h₀, hb, hstop, hothers⟩ := exists_of_finishes ho' h
    refine ⟨v ++ b.text, s₀.shift v.length, by rw [htext, List.append_assoc], ?_, ?_, ?_, ?_⟩
    · simpa using h₀.append v []
    · rw [block_shift, hb]
    · rw [List.length_append, ← hstop]
      rfl
    · intro s hst
      obtain ⟨s₁, h₁, rfl⟩ := hst.skip hno
      obtain rfl | ⟨s₂, h₂, rfl⟩ := hothers s₁ h₁
      · left
        rfl
      · right
        use s₂, h₂
        rw [shift_shift, List.length_append]

/-! ### Along the scan -/

/-- A site starts before it ends. -/
theorem StandsIn.start_lt_stop {t : Text} {s : Site} (h : s.StandsIn t) :
  s.start < s.stop
  := by
  obtain ⟨o, attributes, body, inner, closing, rest, -, -, -, -, hs⟩ := standsIn_iff.mp h
  rw [hs]
  simp only [ofParts]
  omega

/-- The sites of a text, in their order and one after the other. -/
structure Lists (t : Text) (sites : List Site) : Prop where
  mem_iff : ∀ s, s ∈ sites ↔ s.StandsIn t
  ordered : sites.Pairwise fun a b => a.start < b.start ∧ a.stop ≤ b.start

theorem Lists.nil {t : Text} (h : ∀ s : Site, ¬ s.StandsIn t) :
  Lists t []
  := ⟨fun s => by simp [h s], List.Pairwise.nil⟩

/-- When all sites of a text stand behind its front part, they are those of the other part,
moved. -/
theorem Lists.map_shift {u t : Text} {sites : List Site} (h : Lists t sites)
    (hu : ∀ s : Site, s.StandsIn (u ++ t) → ∃ s' : Site, s'.StandsIn t ∧ s = s'.shift u.length) :
  Lists (u ++ t) (sites.map (shift u.length))
  := by
  constructor
  · intro s
    simp only [List.mem_map, h.mem_iff]
    constructor
    · rintro ⟨s', hs', rfl⟩
      simpa using hs'.append u []
    · intro hs
      obtain ⟨s', hs', rfl⟩ := hu s hs
      exact ⟨s', hs', rfl⟩
  · apply List.pairwise_map.mpr
    apply h.ordered.imp
    intro a b hab
    simp only [shift]
    omega

/-- When the first site of a text ends with its front part, the others are those of the
other part, moved. -/
theorem Lists.cons {u t : Text} {s₀ : Site} {sites : List Site} (h : Lists t sites)
    (h₀ : s₀.StandsIn (u ++ t)) (hstop : s₀.stop = u.length)
    (hu : ∀ s : Site, s.StandsIn (u ++ t) → s = s₀ ∨ ∃ s' : Site, s'.StandsIn t
        ∧ s = s'.shift u.length) :
  Lists (u ++ t) (s₀ :: sites.map (shift u.length))
  := by
  constructor
  · intro s
    simp only [List.mem_cons, List.mem_map, h.mem_iff]
    constructor
    · rintro (rfl | ⟨s', hs', rfl⟩)
      · apply h₀
      · simpa using hs'.append u []
    · intro hs
      obtain rfl | ⟨s', hs', rfl⟩ := hu s hs
      · left
        rfl
      · right
        exact ⟨s', hs', rfl⟩
  · apply List.Pairwise.cons
    · intro s hs
      obtain ⟨s', -, rfl⟩ := List.mem_map.mp hs
      have := h₀.start_lt_stop
      simp only [shift]
      omega
    · apply List.pairwise_map.mpr
      apply h.ordered.imp
      intro a b hab
      simp only [shift]
      omega

/-- What is left behind the last of the sites of a text, or `kept` when there is none. -/
def behind (kept t : Text) (sites : List Site) : Text :=
  (sites.getLast?.map fun s => t.drop s.stop).getD kept

/-- What stands behind sites is the same when text comes in front. -/
theorem behind_map_shift (kept u t : Text) (sites : List Site) :
  behind kept (u ++ t) (sites.map (shift u.length)) = behind kept t sites
  := by
  simp only [behind, List.getLast?_map, Option.map_map]
  congr 2
  funext s
  simp only [Function.comp_apply, shift, List.drop_length_add_append]

theorem behind_cons (kept t : Text) (s₀ : Site) (sites : List Site) :
  behind kept t (s₀ :: sites) = behind (t.drop s₀.stop) t sites
  := by
  simp only [behind, List.getLast?_cons]
  cases sites.getLast? <;> rfl

/-- A scan without an irregular name takes the blocks of all sites, in their order, and
leaves what is behind the last of them. -/
theorem exists_lists {kept t : Text} (h : (Block.scanFrom kept t).irregular = false) :
  ∃ sites, Lists t sites ∧ (Block.scanFrom kept t).blocks = sites.map (block t)
    ∧ (Block.scanFrom kept t).rest = behind kept t sites
  := by
  induction hn : t.length using Nat.strongRecOn generalizing kept t with
  | ind n ih =>
      subst hn
      rw [Block.scanFrom_eq] at h ⊢
      cases hs : Sight.of t with
      | waits => exact ⟨[], Lists.nil (not_standsIn_of_sight hs), rfl, rfl⟩
      | irregular => simp [hs] at h
      | passes rest =>
          simp only [hs] at h ⊢
          obtain ⟨sites, hl, hb, hr⟩ := ih _ (Sight.length_of_passes hs) h rfl
          obtain ⟨u, rfl, hu⟩ := exists_of_sight_passes hs
          refine ⟨sites.map (shift u.length), hl.map_shift hu, ?_, ?_⟩
          · rw [hb, List.map_map]
            congr 1
            funext s
            apply (block_shift u rest s).symm
          · rw [hr, behind_map_shift]
      | finishes b rest =>
          simp only [hs] at h ⊢
          obtain ⟨sites, hl, hb, hr⟩ := ih _ (Sight.length_of_finishes hs) h rfl
          obtain ⟨u, s₀, rfl, h₀, hb₀, hstop, hu⟩ := exists_of_sight_finishes hs
          refine ⟨s₀ :: sites.map (shift u.length), hl.cons h₀ hstop hu, ?_, ?_⟩
          · simp only [Scan.after, hb, List.singleton_append, List.map_cons, List.map_map, hb₀]
            congr 2
            funext s
            apply (block_shift u rest s).symm
          · rw [behind_cons, hstop, List.drop_left, behind_map_shift]
            apply hr

end Site

/-- A fresh parser without a tail limit that meets no fault takes in the blocks of exactly the
sites of the text, each once and in their order, and what is left to wait stands behind the
last of them.  Every site of a part of the text is among them, whatever stands around that
part. -/
theorem Parser.feed_sites {defaults : List Choice} {t : Text} {news : List Segment}
    (h : (feed (new .off defaults) t).1 = .ok news) :
  ∃ sites, Site.Lists t sites
    ∧ takeBlocks (new .off defaults) (sites.map (Site.block t))
        = (news, (feed (new .off defaults) t).2.withPending [])
    ∧ (feed (new .off defaults) t).2.pending = Site.behind t t sites
    ∧ ∀ (u part v : Text) (s : Site), t = u ++ (part ++ v) → s.StandsIn part →
        s.shift u.length ∈ sites
  := by
  have hp : (new .off defaults).pending ++ t = t := rfl
  rw [feed_off rfl, hp] at h ⊢
  dsimp only at h ⊢
  split_ifs at h with hi
  obtain ⟨sites, hl, hb, hr⟩ := Site.exists_lists (Bool.not_eq_true _ ▸ hi)
  refine ⟨sites, hl, ?_, hr, ?_⟩
  · rw [← Except.ok.inj h, withPending_withPending, ← hb]
    apply takeBlocks_withPending (new .off defaults) []
  · rintro u part v s rfl hs
    apply (hl.mem_iff _).mpr (hs.append u v)

/-- The block behind a broken opening tag and an opening that another one interrupts. -/
theorem Parser.feed_sites_behind_broken :
  (feed (new .off []) "<Narrator <choices><Narrator>Hi</Narrator> x").1
      = .ok [⟨Segment.narrator, .neutral, "Hi"⟩]
    ∧ ∃ sites, Site.Lists "<Narrator <choices><Narrator>Hi</Narrator> x" sites
        ∧ (feed (new .off []) "<Narrator <choices><Narrator>Hi</Narrator> x").2.pending
            = Site.behind "<Narrator <choices><Narrator>Hi</Narrator> x"
                "<Narrator <choices><Narrator>Hi</Narrator> x" sites
  := by
  have h : (feed (new .off []) "<Narrator <choices><Narrator>Hi</Narrator> x").1
      = .ok [⟨Segment.narrator, .neutral, "Hi"⟩] := by
    decide +kernel
  obtain ⟨sites, hl, -, hp, -⟩ := feed_sites h
  exact ⟨h, sites, hl, hp⟩

end BranchingStory
