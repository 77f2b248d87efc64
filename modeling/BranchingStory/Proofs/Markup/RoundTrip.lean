import BranchingStory.Proofs.Markup.PassageSpeech
import BranchingStory.Proofs.Markup.Repetition

/-!
# Parsing what is printed

A new parser that is fed a plain script gives out what its passages say, keeps the first
choice of every name that they offer, and waits with the text behind the last of them.
-/

namespace BranchingStory

namespace Script

variable {s : Script}

/-- The blocks of a plain script propose what its passages say. -/
theorem IsPlain.flatMap_utterances (h : s.IsPlain) :
  (s.parts.map (·.1.block)).flatMap (·.utterances) = s.utterances
  := by
  rw [List.flatMap_map, utterances]
  apply List.flatMap_congr
  intro p hp
  apply (h.2 p hp).1.utterances_block

/-- The blocks of a plain script list what its passages offer. -/
theorem IsPlain.flatMap_choices (h : s.IsPlain) :
  (s.parts.map (·.1.block)).flatMap (·.choices) = s.offers
  := by
  rw [List.flatMap_map, offers]
  apply List.flatMap_congr
  intro p hp
  apply (h.2 p hp).1.choices_block

/-- What is given out of a script that is fed to a new parser. -/
def segments (s : Script) : List Segment :=
  (Utterance.fresh [] s.utterances).map (·.segment)

/-- What is said first is given out. -/
theorem segments_ne_nil (h : s.utterances ≠ []) :
  s.segments ≠ []
  := by
  obtain ⟨u, us, hu⟩ := List.exists_cons_of_ne_nil h
  simp [segments, hu, Utterance.fresh]

/-! ### Passages with a gap between them -/

/-- Passages, each with a gap behind it and the last one with a tail. -/
def spaced (gap tail : Text) : Passage → List Passage → List (Passage × Text)
  | p, [] => [(p, tail)]
  | p, q :: ps => (p, gap) :: spaced gap tail q ps

/-- The script of passages with a gap between them and a tail behind them. -/
def ofPassages (gap tail : Text) : List Passage → Script
  | [] => ⟨tail, []⟩
  | p :: ps => ⟨[], spaced gap tail p ps⟩

variable {gap tail : Text} {ps : List Passage}

/-- Passages with gaps behind them are the passages. -/
theorem map_fst_spaced (gap tail : Text) (p : Passage) (ps : List Passage) :
  (spaced gap tail p ps).map (·.1) = p :: ps
  := by
  induction ps generalizing p with
  | nil => rfl
  | cons q ps ih => simp [spaced, ih]

theorem map_fst_ofPassages (gap tail : Text) (ps : List Passage) :
  (ofPassages gap tail ps).parts.map (·.1) = ps
  := by
  cases ps with
  | nil => rfl
  | cons p ps => apply map_fst_spaced

/-- The markup of the script is the markup of the passages and the tail. -/
theorem print_ofPassages (gap tail : Text) (ps : List Passage) :
  (ofPassages gap tail ps).print = Passage.printAll gap ps ++ tail
  := by
  cases ps with
  | nil => simp [ofPassages, print, Passage.printAll]
  | cons p ps =>
      induction ps generalizing p with
      | nil => simp [ofPassages, spaced, print, Passage.printAll]
      | cons q ps ih =>
          have hq := ih q
          simp only [ofPassages, print, List.nil_append, Passage.printAll, List.map_cons] at hq
          simp only [ofPassages, spaced, print, List.nil_append, List.flatMap_cons, hq,
            Passage.printAll, List.map_cons, List.intercalate_cons_cons, List.append_assoc]

theorem getLast?_spaced (gap tail : Text) (p : Passage) (ps : List Passage) :
  ∃ q, (spaced gap tail p ps).getLast? = some (q, tail)
  := by
  induction ps generalizing p with
  | nil => exact ⟨p, rfl⟩
  | cons q ps ih =>
      obtain ⟨r, hr⟩ := ih q
      use r
      rw [spaced, List.getLast?_cons, hr]
      rfl

/-- A script of passages ends in its tail. -/
theorem tail_ofPassages (gap tail : Text) (ps : List Passage) :
  (ofPassages gap tail ps).tail = tail
  := by
  cases ps with
  | nil => rfl
  | cons p ps =>
      obtain ⟨q, hq⟩ := getLast?_spaced gap tail p ps
      rw [Script.tail, ofPassages, hq]
      rfl

/-- A script offers what its passages offer. -/
theorem offers_ofPassages (gap tail : Text) (ps : List Passage) :
  (ofPassages gap tail ps).offers = ps.flatMap (·.offers)
  := by
  rw [offers, ← List.flatMap_map, map_fst_ofPassages]

/-- Behind every passage stands a gap or the tail. -/
theorem mem_spaced {p : Passage} {b : Passage × Text} (h : b ∈ spaced gap tail p ps) :
  b.1 ∈ p :: ps ∧ (b.2 = gap ∨ b.2 = tail)
  := by
  induction ps generalizing p with
  | nil =>
      rw [spaced, List.mem_singleton] at h
      simp [h]
  | cons q ps ih =>
      rw [spaced, List.mem_cons] at h
      obtain rfl | h := h
      · simp
      · exact ⟨List.mem_cons_of_mem _ (ih h).1, (ih h).2⟩

/-- Plain passages with a gap and a tail that are no markup are a plain script. -/
theorem isPlain_ofPassages (hgap : '<' ∉ gap) (htail : '<' ∉ tail)
    (hps : ∀ p ∈ ps, p.IsPlain) :
  (ofPassages gap tail ps).IsPlain
  := by
  cases ps with
  | nil => exact ⟨htail, by simp [ofPassages]⟩
  | cons p ps =>
      constructor
      · simp [ofPassages]
      · intro b hb
        obtain ⟨hmem, htext⟩ := mem_spaced hb
        use hps _ hmem
        obtain ht | ht := htext
        · rw [ht]
          apply hgap
        · rw [ht]
          apply htail

/-- A script says what its passages say. -/
theorem utterances_ofPassages (gap tail : Text) (ps : List Passage) :
  (ofPassages gap tail ps).utterances = ps.flatMap (·.utterances)
  := by
  rw [utterances, ← List.flatMap_map, map_fst_ofPassages]

/-- The markup of plain passages is that of a plain script which says and offers what they do. -/
theorem exists_print_eq (hgap : '<' ∉ gap) (hps : ∀ p ∈ ps, p.IsPlain) :
  ∃ s : Script, s.IsPlain ∧ Passage.printAll gap ps = s.print
    ∧ s.utterances = ps.flatMap (·.utterances) ∧ s.offers = ps.flatMap (·.offers)
  := by
  refine ⟨ofPassages gap [] ps, isPlain_ofPassages hgap List.not_mem_nil hps, ?_,
    utterances_ofPassages gap [] ps, offers_ofPassages gap [] ps⟩
  rw [print_ofPassages, List.append_nil]

end Script

namespace Parser

/-- The parser behind the blocks of a plain script. -/
theorem takeBlocks_script (limit : TailLimit) (defaults : List Choice) {s : Script}
    (h : s.IsPlain) :
  ∃ q, takeBlocks (new limit defaults) (s.parts.map (·.1.block)) = (s.segments, q)
    ∧ q.segments = s.segments ∧ q.choices = Choice.firsts s.offers
    ∧ q.complete = !(Choice.firsts s.offers).isEmpty
  := by
  have hnew : (new limit defaults).Remembers [] := by
    simp [Remembers, new]
  have hsettled : (new limit defaults).Settled := rfl
  obtain ⟨h₁, -⟩ := hnew.takeBlocks (s.parts.map (·.1.block))
  have h₃ := segments_takeBlocks (new limit defaults) (s.parts.map (·.1.block))
  have hc := takeBlocks_choices (new limit defaults) (s.parts.map (·.1.block))
  rw [h.flatMap_utterances] at h₁
  rw [h.flatMap_choices] at hc
  have hq := hsettled.takeBlocks (s.parts.map (·.1.block))
  have hfirsts := hc.trans (Choice.offerAll_nil s.offers)
  rw [Settled, hfirsts] at hq
  refine ⟨_, Prod.ext h₁ rfl, ?_, hfirsts, hq⟩
  rw [h₃, h₁]
  rfl

/-- A new parser that is fed a plain script takes in its passages and waits with the text
behind them; then it may fall back on its default choices. -/
theorem feed_script (limit : TailLimit) (defaults : List Choice) {s : Script} (h : s.IsPlain) :
  ∃ q, (new limit defaults).feed s.print
      = (match fallBack q with
        | .error e => (.error e, q)
        | .ok q' => (.ok s.segments, q'))
    ∧ q.limit = limit ∧ q.defaults = defaults
    ∧ q.segments = s.segments
    ∧ q.choices = Choice.firsts s.offers
    ∧ q.complete = !(Choice.firsts s.offers).isEmpty
    ∧ q.pending = s.tail
  := by
  obtain ⟨q, hq, hs, hc, hd⟩ := takeBlocks_script limit defaults h
  have hscan : Block.scan ((new limit defaults).pending ++ s.print)
      = ⟨s.parts.map (·.1.block), s.tail, false⟩ := Script.scan_print h
  obtain ⟨ss, gs, cs, done, hframe⟩ :=
    takeBlocks_frame (new limit defaults) (s.parts.map (·.1.block))
  rw [hq] at hframe
  have hlimit : q.limit = limit := congrArg Parser.limit hframe
  have hdefaults : q.defaults = defaults := congrArg Parser.defaults hframe
  use q.withPending s.tail
  refine ⟨?_, hlimit, hdefaults, hs, hc, hd, rfl⟩
  simp only [feed, hscan, hq]
  rfl

/-- A new parser without a tail limit reads a plain script back: it has no fault, gives out what
the passages say in order, keeps the first choice of every name, has its choices complete
when there are any, and waits with the text behind the last passage. -/
theorem feed_print (defaults : List Choice) {s : Script} (h : s.IsPlain) :
  ∃ q, (new .off defaults).feed s.print = (.ok s.segments, q)
    ∧ q.segments = s.segments
    ∧ q.choices = Choice.firsts s.offers
    ∧ q.complete = !(Choice.firsts s.offers).isEmpty
    ∧ q.pending = s.tail
  := by
  obtain ⟨q, hq, hlimit, -, hrest⟩ := feed_script .off defaults h
  have hfall : fallBack q = .ok q := by
    simp [fallBack, hlimit, TailLimit.isOff]
  rw [hfall] at hq
  exact ⟨q, hq, hrest⟩

/-- A compact scene whose line is said again, and choices of one name, read back. -/
theorem feed_print_repeated :
  ∃ q, (new .off []).feed (Script.print ⟨"\n",
      [(.sceneOnOneLine "venti" "in  love" "bows" "Hail!", " > "),
       (.scene " VENTI " [] [(.action "in love" "", []), (.say "Hail!", [])], []),
       (.choices [] [(⟨"a", "One", true⟩, []), (⟨"a ", "Two", false⟩, [])], "?")]⟩)
      = (.ok [⟨"VENTI", .deeplyInLove, "(bows)"⟩, ⟨"VENTI", .deeplyInLove, "Hail!"⟩], q)
    ∧ q.choices = [⟨"a", "One", true⟩] ∧ q.complete = true ∧ q.pending = "?"
  := by
  obtain ⟨q, hq, -, hc, hd, hp⟩ := feed_print [] (s := ⟨"\n",
    [(.sceneOnOneLine "venti" "in  love" "bows" "Hail!", " > "),
     (.scene " VENTI " [] [(.action "in love" "", []), (.say "Hail!", [])], []),
     (.choices [] [(⟨"a", "One", true⟩, []), (⟨"a ", "Two", false⟩, [])], "?")]⟩)
    (by decide +kernel)
  refine ⟨q, hq.trans ?_, hc.trans ?_, hd.trans ?_, hp.trans ?_⟩
  · rfl
  · decide +kernel
  · decide +kernel
  · rfl

end Parser

end BranchingStory
