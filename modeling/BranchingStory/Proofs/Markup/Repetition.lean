import BranchingStory.Proofs.Markup.Pieces

/-!
# What is given out once

Over everything that it is fed, a parser gives out an utterance that is not to be repeated
only the first time, and keeps the first choice of every name.  Both are read off the list of
all utterances and the list of all choices, whatever the blocks are that they come from.
-/

namespace BranchingStory

/-! ### First utterances -/

namespace Utterance

/-- The utterances that are given out behind `earlier` ones: all but those that are not to be
repeated and are there already. -/
def fresh : (earlier us : List Utterance) → List Utterance
  | _, [] => []
  | earlier, u :: us =>
    (if u.once ∧ u ∈ earlier then [] else [u]) ++ fresh (earlier ++ [u]) us

/-- What is fresh in two texts is fresh in the first, or in the second behind it. -/
theorem fresh_append (earlier us vs : List Utterance) :
  fresh earlier (us ++ vs) = fresh earlier us ++ fresh (earlier ++ us) vs
  := by
  induction us generalizing earlier with
  | nil => simp [fresh]
  | cons u us ih => simp [fresh, ih]

end Utterance

/-! ### First choices -/

namespace Choice

/-- The first choice of every name. -/
def firsts : List Choice → List Choice
  | [] => []
  | c :: cs => c :: (firsts cs).filter (·.id ≠ c.id)

/-- A choice is offered in two lists when it is in either. -/
theorem isOffered_append (id : Text) (cs ds : List Choice) :
  isOffered id (cs ++ ds) = (isOffered id cs || isOffered id ds)
  := by
  simp [isOffered]

/-- Offering choices adds the first of every name that is not there. -/
theorem offerAll_eq (cs more : List Choice) :
  offerAll cs more = cs ++ (firsts more).filter (!isOffered ·.id cs)
  := by
  induction more generalizing cs with
  | nil => simp [offerAll, firsts]
  | cons c more ih =>
      have hstep : offerAll cs (c :: more) = offerAll (offer cs c) more := rfl
      rw [hstep, ih, offer, firsts]
      by_cases hc : isOffered c.id cs = true
      · rw [if_pos hc, List.filter_cons_of_neg (by simp [hc]), List.filter_filter]
        congr 1
        apply List.filter_congr
        intro d _
        by_cases hd : d.id = c.id
        · simp [hd, hc]
        · simp [hd]
      · rw [if_neg hc, List.filter_cons_of_pos (by simpa using hc), List.append_assoc,
          List.singleton_append, List.filter_filter]
        congr 2
        apply List.filter_congr
        intro d _
        rw [isOffered_append]
        by_cases hd : d.id = c.id
        · simp [isOffered, hd]
        · simp [isOffered, Ne.symm hd, hd]

/-- Offering choices where there are none leaves the first of every name. -/
theorem offerAll_nil (cs : List Choice) :
  offerAll [] cs = firsts cs
  := by
  simp [offerAll_eq, isOffered]

theorem offerAll_append (cs ds es : List Choice) :
  offerAll (offerAll cs ds) es = offerAll cs (ds ++ es)
  := by
  simp [offerAll]

/-- The first choices are among all. -/
theorem mem_firsts {c : Choice} {cs : List Choice} (h : c ∈ firsts cs) :
  c ∈ cs
  := by
  induction cs with
  | nil => simp [firsts] at h
  | cons d cs ih =>
      rw [firsts, List.mem_cons, List.mem_filter] at h
      obtain rfl | ⟨h, -⟩ := h
      · apply List.mem_cons_self
      · apply List.mem_cons_of_mem _ (ih h)

theorem firsts_ne_nil {cs : List Choice} (h : cs ≠ []) :
  firsts cs ≠ []
  := by
  obtain ⟨c, cs, rfl⟩ := List.exists_cons_of_ne_nil h
  simp [firsts]

/-- The first choices have one name each. -/
theorem nodup_firsts (cs : List Choice) :
  ((firsts cs).map (·.id)).Nodup
  := by
  induction cs with
  | nil => simp [firsts]
  | cons c cs ih =>
      rw [firsts, List.map_cons, List.nodup_cons]
      constructor
      · simp
      · apply List.Nodup.sublist _ ih
        apply (List.filter_sublist).map

/-- Choices of different names are all first. -/
theorem firsts_of_nodup {cs : List Choice} (h : (cs.map (·.id)).Nodup) :
  firsts cs = cs
  := by
  induction cs with
  | nil => rfl
  | cons c cs ih =>
      rw [List.map_cons, List.nodup_cons] at h
      rw [firsts, ih h.2, List.filter_eq_self.mpr]
      intro d hd
      have hne : d.id ≠ c.id := by
        intro he
        apply h.1
        rw [← he]
        apply List.mem_map_of_mem hd
      simpa using hne

end Choice

/-! ### What a parser gives out -/

namespace Parser

/-- What is said is shown behind what was shown before. -/
theorem segments_say (p : Parser) (u : Utterance) :
  (say p u).2.segments = p.segments ++ (say p u).1
  := by
  unfold say
  split_ifs
  · exact (List.append_nil _).symm
  · rfl
  · rfl

/-- The segments that utterances give out are added at the end. -/
theorem segments_sayAll (p : Parser) (us : List Utterance) :
  (sayAll p us).2.segments = p.segments ++ (sayAll p us).1
  := by
  induction us generalizing p with
  | nil => exact (List.append_nil _).symm
  | cons u us ih => simp only [sayAll, ih, segments_say, List.append_assoc]

/-- The segments that blocks give out are added at the end. -/
theorem segments_takeBlocks (p : Parser) (bs : List Block) :
  (takeBlocks p bs).2.segments = p.segments ++ (takeBlocks p bs).1
  := by
  induction bs generalizing p with
  | nil => exact (List.append_nil _).symm
  | cons b bs ih =>
      have hb : (takeBlock p b).2.segments = p.segments ++ (takeBlock p b).1 :=
        segments_sayAll p b.utterances
      simp only [takeBlocks, ih, hb, List.append_assoc]

/-- A parser that has not forgotten which of the utterances may not be repeated. -/
def Remembers (p : Parser) (us : List Utterance) : Prop :=
  ∀ g, g ∈ p.said ↔ ⟨g, true⟩ ∈ us

/-- An utterance is given out when it is fresh, and remembered. -/
theorem Remembers.say {p : Parser} {us : List Utterance} (h : p.Remembers us) (u : Utterance) :
  (p.say u).1 = (if u.once ∧ u ∈ us then [] else [u]).map (·.segment)
    ∧ (p.say u).2.Remembers (us ++ [u])
  := by
  obtain ⟨g, once⟩ := u
  cases once with
  | false =>
      refine ⟨by simp [Parser.say], ?_⟩
      intro g'
      simpa [Parser.say] using h g'
  | true =>
      by_cases hg : g ∈ p.said
      · have hu := (h g).mp hg
        refine ⟨by simp [Parser.say, hg, hu], ?_⟩
        intro g'
        simp only [Parser.say, hg, List.contains_iff_mem, Bool.true_and, if_true, h g',
          List.mem_append, List.mem_singleton]
        constructor
        · exact Or.inl
        · rintro (hm | hm)
          · apply hm
          · rw [hm]
            apply hu
      · have hu : ¬ (⟨g, true⟩ : Utterance) ∈ us := fun hu => hg ((h g).mpr hu)
        refine ⟨by simp [Parser.say, hg, hu], ?_⟩
        intro g'
        simp [Parser.say, hg, h g']

/-- The fresh ones of utterances are given out, and all are remembered. -/
theorem Remembers.sayAll {p : Parser} {earlier : List Utterance} (h : p.Remembers earlier)
    (us : List Utterance) :
  (p.sayAll us).1 = (Utterance.fresh earlier us).map (·.segment)
    ∧ (p.sayAll us).2.Remembers (earlier ++ us)
  := by
  induction us generalizing p earlier with
  | nil => simpa [Parser.sayAll, Utterance.fresh] using h
  | cons u us ih =>
      obtain ⟨h₁, h₂⟩ := h.say u
      obtain ⟨i₁, i₂⟩ := ih h₂
      constructor
      · rw [Parser.sayAll, Utterance.fresh, List.map_append, ← h₁, ← i₁]
      · simpa [Parser.sayAll] using i₂

/-- The fresh ones of all utterances of blocks are given out, and all are remembered. -/
theorem Remembers.takeBlocks {p : Parser} {earlier : List Utterance} (h : p.Remembers earlier)
    (bs : List Block) :
  (p.takeBlocks bs).1 = (Utterance.fresh earlier (bs.flatMap (·.utterances))).map (·.segment)
    ∧ (p.takeBlocks bs).2.Remembers (earlier ++ bs.flatMap (·.utterances))
  := by
  induction bs generalizing p earlier with
  | nil => simpa [Parser.takeBlocks, Utterance.fresh] using h
  | cons b bs ih =>
      obtain ⟨h₁, h₂⟩ := h.sayAll b.utterances
      have hb : (p.takeBlock b).2.Remembers (earlier ++ b.utterances) := h₂
      obtain ⟨i₁, i₂⟩ := ih hb
      constructor
      · rw [Parser.takeBlocks, List.flatMap_cons, Utterance.fresh_append, List.map_append, ← h₁,
          ← i₁]
        rfl
      · simpa [Parser.takeBlocks] using i₂

/-- The choices of blocks are offered one after another. -/
theorem takeBlocks_choices (p : Parser) (bs : List Block) :
  (p.takeBlocks bs).2.choices = Choice.offerAll p.choices (bs.flatMap (·.choices))
  := by
  induction bs generalizing p with
  | nil => rfl
  | cons b bs ih =>
      have hb : (p.takeBlock b).2.choices = Choice.offerAll p.choices b.choices := by
        obtain ⟨ss, gs, h⟩ := sayAll_frame p b.utterances
        rw [takeBlock_snd, h]
        rfl
      rw [List.flatMap_cons, ← Choice.offerAll_append, ← hb]
      apply ih

/-- A parser whose choices are complete exactly when it has any. -/
def Settled (p : Parser) : Prop :=
  p.complete = !p.choices.isEmpty

/-- Only a block of choices lists choices. -/
theorem choices_of_ne {b : Block} (h : b.kind ≠ .choices) :
  b.choices = []
  := by
  unfold Block.choices
  split
  · next hk => exact absurd hk h
  · rfl

theorem Settled.takeBlock {p : Parser} (h : p.Settled) (b : Block) :
  (p.takeBlock b).2.Settled
  := by
  obtain ⟨ss, gs, hs⟩ := sayAll_frame p b.utterances
  rw [takeBlock_snd, hs]
  simp only [Settled, takeChoices] at h ⊢
  rw [h]
  by_cases hk : b.kind = .choices
  · have hb : (b.kind == .choices) = true := by simp [hk]
    rw [hb, Choice.offerAll_eq]
    cases hc : p.choices <;> simp
  · have hb : (b.kind == .choices) = false := by simpa using hk
    rw [hb, choices_of_ne hk]
    simp [Choice.offerAll]

/-- A settled parser stays so behind blocks. -/
theorem Settled.takeBlocks {p : Parser} (h : p.Settled) (bs : List Block) :
  (p.takeBlocks bs).2.Settled
  := by
  induction bs generalizing p with
  | nil => apply h
  | cons b bs ih => apply ih (h.takeBlock b)

end Parser

end BranchingStory
