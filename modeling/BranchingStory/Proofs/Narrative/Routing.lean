import BranchingStory.Proofs.Narrative.InPieces
import BranchingStory.Proofs.Record.ReadBack
import BranchingStory.Proofs.Record.Revision

/-!
# What a route changes

Whatever the choice and the state of the threads, also a state that names no threads and no
stages, there is a route.  It shows something and offers a way on unless it ends the story, and it
touches the thread that the choice is about and no other: `Route.resolve_local`.  Behind a route
the same choice has the same route again: `Route.resolveStr_again`.
-/

namespace BranchingStory

/-! ### Labels -/

/-- A label that names a stage is the label of that stage. -/
theorem Stage.label_of_ofLabel? {t : Text} {s : Stage} (h : Stage.ofLabel? t = some s) :
  s.label = t
  := by simpa using List.find?_some h

namespace Progress

section

variable {κ : Type} [ThreadName κ] [DecidableEq κ]

omit [ThreadName κ] [DecidableEq κ] in
/-- The entries whose labels name a stage, as they were given. -/
def valid (p : Progress κ) : Progress κ :=
  p.filter fun e => (Stage.ofLabel? e.2).isSome

omit [ThreadName κ] [DecidableEq κ] in
/-- The labels of the stages that are named are the valid ones. -/
theorem ofStages_stages (p : Progress κ) :
  ofStages p.stages = p.valid
  := by
  induction p with
  | nil => rfl
  | cons e p ih =>
      cases hs : Stage.ofLabel? e.2 with
      | none =>
          rw [stages_cons_none hs, ih, valid, valid, List.filter_cons_of_neg (by simp [hs])]
      | some s =>
          rw [stages_cons_some hs, valid, List.filter_cons_of_pos (by simp [hs]), ← valid, ← ih]
          have he : (e.1, s.label) = e := by rw [Stage.label_of_ofLabel? hs]
          rw [ofStages, ofStages, Entries.mapValues, List.map_cons, he]
          rfl

/-- The labels behind raising the thread of a character to a stage: a lower label is replaced in
its place, and where the thread has none the new one goes last. -/
inductive Raised (c : Character) (s : Stage) : Progress κ → Progress κ → Prop where
  | inPlace {before after : Progress κ} {old : Stage} (hbefore : c.thread ∉ before.map (·.1))
      (hlt : old < s) :
    Raised c s (before ++ (c.thread, old.label) :: after) (before ++ (c.thread, s.label) :: after)
  | last {p : Progress κ} (hp : c.thread ∉ p.map (·.1)) :
    Raised c s p (p ++ [(c.thread, s.label)])

variable {c : Character} {s : Stage}

omit [DecidableEq κ] in
/-- A further label in front stays. -/
theorem Raised.cons {p q : Progress κ} (h : Raised c s p q) {e : κ × Text} (he : c.thread ≠ e.1) :
  Raised c s (e :: p) (e :: q)
  := by
  cases h with
  | @inPlace before after old hbefore hlt =>
      have hcons : c.thread ∉ (e :: before).map (·.1) := by
        rw [List.map_cons, List.mem_cons, not_or]
        exact ⟨he, hbefore⟩
      exact .inPlace hcons hlt
  | last hp =>
      have hcons : c.thread ∉ (e :: p).map (·.1) := by
        rw [List.map_cons, List.mem_cons, not_or]
        exact ⟨he, hp⟩
      exact .last hcons

omit [ThreadName κ] [DecidableEq κ] in
theorem ofStages_cons (e : κ × Stage) (es : List (κ × Stage)) :
  ofStages (e :: es) = (e.1, e.2.label) :: ofStages es
  := rfl

/-- A thread that stands lower is raised by putting it to its new stage. -/
theorem raised_put {es : List (κ × Stage)} (h : Route.stageOf es c < s) :
  Raised c s (ofStages es) (ofStages (Entries.put c.thread s es))
  := by
  induction es with
  | nil => exact .last List.not_mem_nil
  | cons e es ih =>
      rw [Entries.put]
      rw [Route.stageOf, Entries.get?_cons] at h
      split_ifs at h ⊢ with he
      · rw [ofStages_cons, ofStages_cons, he]
        have hnil : c.thread ∉ ([] : List (κ × Text)).map (·.1) := List.not_mem_nil
        exact .inPlace hnil h
      · rw [ofStages_cons, ofStages_cons]
        exact (ih h).cons (Ne.symm he)

end

end Progress

/-! ### What is raised and what is completed -/

namespace Route

/-- A name at the end is added unless it was there. -/
theorem distinct_append_singleton {α : Type} [BEq α] (names : List α) (name : α) :
  distinct (names ++ [name]) = addOnce (distinct names) name
  := List.foldl_concat _ _ _ _

/-- Taking names each once is dropping the later repetitions. -/
theorem distinct_eq_eraseDups {α : Type} [BEq α] [LawfulBEq α] (names : List α) :
  distinct names = names.eraseDups
  := by
  induction names using List.reverseRecOn with
  | nil => rfl
  | append_singleton names name ih =>
      rw [distinct_append_singleton, ih, List.eraseDups_append, addOnce]
      by_cases h : name ∈ names
      · simp [List.removeAll, h]
      · simp [List.removeAll, h, List.eraseDups_cons]

section

variable {κ : Type} [ThreadName κ] [DecidableEq κ]

/-- A thread is raised, or it stands there already. -/
theorem advance_cases (es : List (κ × Stage)) (c : Character) (s : Stage) :
  Progress.Raised c s (.ofStages es) (.ofStages (advance es c s))
    ∨ advance es c s = es ∧ s ≤ stageOf es c
  := by
  by_cases hlt : stageOf es c < s
  · left
    rw [advance_of_lt (Stage.lt_iff_rank.mp hlt)]
    exact Progress.raised_put hlt
  · right
    exact ⟨if_neg hlt, not_lt.mp hlt⟩

/-- A choice that raises one thread raises it, or the thread stands there already. -/
theorem raised_or_stands {k : ChoiceKind} {c : Character} {s : Stage}
    (hk : ∀ (d : Character) u, k.raises d.id = some u ↔ c = d ∧ s = u) (es : List (κ × Stage)) :
  (∃ d u, k.raises d.id = some u
      ∧ Progress.Raised d u (.ofStages es) (.ofStages (advance es c s)))
    ∨ advance es c s = es ∧ ∀ d u, k.raises d.id = some u → u ≤ stageOf es d
  := by
  obtain hraised | ⟨hsame, hle⟩ := advance_cases es c s
  · exact Or.inl ⟨c, s, (hk c s).mpr ⟨rfl, rfl⟩, hraised⟩
  · refine Or.inr ⟨hsame, fun d u hu => ?_⟩
    obtain ⟨rfl, rfl⟩ := (hk d u).mp hu
    exact hle

variable [BEq κ]

/-- The stages behind a route: the one thread that the choice raises, if that stood lower. -/
theorem progress_ofKind (completed : List κ) (es : List (κ × Stage)) (k : ChoiceKind) :
  (∃ c s, k.raises c.id = some s
      ∧ Progress.Raised c s (.ofStages es) (.ofStages (ofKind completed es k).progress))
    ∨ (ofKind completed es k).progress = es
      ∧ ∀ c s, k.raises c.id = some s → s ≤ stageOf es c
  := by
  cases k with
  | stageOne c =>
      apply raised_or_stands
      simp [ChoiceKind.raises, Character.id_inj]
  | stageTwo c =>
      apply raised_or_stands
      simp [ChoiceKind.raises, Character.id_inj]
  | _ =>
      refine Or.inr ⟨rfl, fun d s hd => ?_⟩
      cases hd

/-- The completed threads behind a route: the one thread that the choice completes, if it was not
among them, goes last. -/
theorem completed_ofKind [LawfulBEq κ] (completed : List κ) (es : List (κ × Stage)) (k : ChoiceKind) :
  ∃ gained : Option Character,
    (∀ c, gained = some c ↔ k = .returnToHub c ∧ c.thread ∉ completed)
    ∧ (ofKind completed es k).completed = completed ++ (gained.map Character.thread).toList
  := by
  cases k with
  | returnToHub c =>
      by_cases hc : c.thread ∈ completed
      · refine ⟨none, fun d => ?_, ?_⟩
        · simp only [reduceCtorEq, ChoiceKind.returnToHub.injEq, false_iff, not_and, not_not]
          rintro rfl
          exact hc
        · simp [ofKind, addOnce, hc]
      · refine ⟨some c, fun d => ?_, by simp [ofKind, addOnce, hc]⟩
        rw [Option.some.injEq, ChoiceKind.returnToHub.injEq]
        refine ⟨fun h => ⟨h, h ▸ hc⟩, And.left⟩
  | _ => exact ⟨none, by simp, (List.append_nil _).symm⟩

/-- Only the choice that ends the story leads to the epilogue. -/
theorem final_ofKind (completed : List κ) (es : List (κ × Stage)) (k : ChoiceKind) :
  (ofKind completed es k).final = true ↔ k = .endStory
  := by
  cases k <;> simp [ofKind]

end

end Route

/-! ### What is shown -/

/-- At every stage a thread says something. -/
theorem Fragment.utterances_ne_nil (c : Character) (s : Stage) :
  (passages c s).flatMap (·.utterances) ≠ []
  := by
  cases c <;> cases s <;> decide

/-- Something is said in the epilogue. -/
theorem Fragment.utterances_epilogue_ne_nil :
  epiloguePassages.flatMap (·.utterances) ≠ []
  := by decide +kernel

/-- Something is said in every hub. -/
theorem Hub.utterances_ne_nil {κ : Type} [ThreadName κ] [BEq κ] (completed : List κ) :
  (passages completed).flatMap (·.utterances) ≠ []
  := by
  have h : (Passage.sceneOnLines Segment.narrator
      [.say "Who do you sit with?"]).utterances ≠ [] := by
    decide
  rw [passages, List.flatMap_cons]
  exact List.append_ne_nil_of_left_ne_nil h _

namespace Route

/-- Whatever the threads and the choice, a route shows a plain script that says something and,
unless it is the last one, offers something that is enabled. -/
theorem exists_script_showing (id : Str) (completed : List Str) (p : List (Str × Str)) :
  ∃ script : Script, script.IsPlain ∧ (resolveStr id completed p).fragment = script.print
    ∧ script.utterances ≠ []
    ∧ ((resolveStr id completed p).final = true
      ∨ ∃ o ∈ Choice.firsts script.offers, o.disabled = false)
  := by
  have hgap : '<' ∉ ("\n\n" : Text) := by decide
  rw [resolveStr]
  obtain ⟨c, s, hfragment⟩ | ⟨names, hfragment⟩ | ⟨hfragment, hfinal⟩ :=
    fragment_cases (distinct completed) (Progress.ofStrs p).stages (ChoiceKind.ofStr id)
  · obtain ⟨script, hplain, hprint, hshows, hoffers⟩ :=
      Script.exists_print_eq hgap (Fragment.isPlain_passages c s)
    refine ⟨script, hplain, hfragment.trans hprint, ?_, Or.inr ?_⟩
    · rw [hshows]
      exact Fragment.utterances_ne_nil c s
    · obtain ⟨o, ho, henabled, -⟩ := Fragment.exists_wayBack c s
      rw [hoffers, ← Fragment.offers, Choice.firsts_of_nodup (Fragment.nodup_ids c s)]
      exact ⟨o, ho, henabled⟩
  · obtain ⟨script, hplain, hprint, hshows, hoffers⟩ :=
      Script.exists_print_eq hgap (Hub.isPlain_passages names)
    refine ⟨script, hplain, hfragment.trans hprint, ?_, Or.inr ?_⟩
    · rw [hshows]
      exact Hub.utterances_ne_nil names
    · rw [hoffers, Hub.offers_passages, Choice.firsts_of_nodup (Hub.nodup_ids names)]
      exact ⟨Hub.ending, by simp, rfl⟩
  · have hline : '<' ∉ ("\n" : Text) := by decide
    obtain ⟨script, hplain, hprint, hshows, -⟩ :=
      Script.exists_print_eq hline Fragment.isPlain_epilogue
    refine ⟨script, hplain, hfragment.trans hprint, ?_, Or.inl hfinal⟩
    rw [hshows]
    exact Fragment.utterances_epilogue_ne_nil

/-- The fragment of a route is not empty, and a parser without a tail limit finishes segments of it
and, unless it is the last one, finds a choice that is enabled. -/
theorem exists_feed_fragment (id : Str) (completed : List Str) (p : List (Str × Str))
    (defaults : List Choice) :
  (resolveStr id completed p).fragment ≠ []
    ∧ ∃ new q, (Parser.new .off defaults).feed (resolveStr id completed p).fragment = (.ok new, q)
      ∧ new ≠ [] ∧ q.segments = new
      ∧ ((resolveStr id completed p).final = false → ∃ o ∈ q.choices, o.disabled = false)
  := by
  obtain ⟨script, hplain, hfragment, hshows, hoffers⟩ := exists_script_showing id completed p
  obtain ⟨q, hfeed, hsegments, hchoices, -⟩ := Parser.feed_print defaults hplain
  have hnew := Script.segments_ne_nil hshows
  rw [hfragment]
  refine ⟨fun hnil => ?_, script.segments, q, hfeed, hnew, hsegments, fun hfinal => ?_⟩
  · have hidle := congrArg Prod.fst hfeed
    rw [hnil, Parser.isIdle_new defaults] at hidle
    exact hnew (Except.ok.inj hidle).symm
  · rw [hchoices]
    exact hoffers.resolve_left (by simp [hfinal])

/-! ### Values that are strings -/

/-- Strings are alike when they are the same. -/
theorem foldl_addUnlike_str (acc names : List Str) :
  (names.map Json.str).foldl addUnlike (acc.map Json.str) = (names.foldl addOnce acc).map Json.str
  := by
  induction names generalizing acc with
  | nil => rfl
  | cons name names ih =>
      have halike : (acc.map Json.str).any (Json.alike (.str name)) = acc.contains name := by
        rw [List.any_map, List.contains_eq_any_beq]
        rfl
      have hstep : addUnlike (acc.map Json.str) (.str name) = (addOnce acc name).map Json.str := by
        rw [addUnlike, addOnce, halike]
        split_ifs
        · rfl
        · rw [List.map_append]
          rfl
      rw [List.map_cons, List.foldl_cons, hstep, ih]
      rfl

/-- Where all that is told of the threads are strings there is a route. -/
theorem ofJson_str (id : Str) (completed : List Str) (p : List (Str × Str)) :
  ofJson id (completed.map .str) (Entries.mapValues .str p) = .ok (resolveStr id completed p)
  := by
  have hdistinct :
      (completed.map Json.str).foldl addUnlike [] = (distinct completed).map Json.str :=
    foldl_addUnlike_str [] completed
  have hcompound : ((distinct completed).map Json.str).any Json.isCompound = false := by
    rw [List.any_map]
    exact List.any_eq_false.mpr fun name _ => Bool.false_ne_true
  have hnames : Json.checkList Json.checkStr (.arr ((distinct completed).map Json.str))
      = .ok (distinct completed) := Json.checkList_map .str fun _ _ => rfl
  have hlabels : labels (Entries.mapValues Json.str p) = Progress.ofStrs p := by
    rw [labels, Entries.mapValues, List.filterMap_map]
    rfl
  simp only [ofJson, hdistinct, hcompound, Bool.and_false, Bool.false_eq_true, if_false, hnames,
    Checked.under, hlabels, resolveStr]

/-! ### Any choice -/

/-- A choice calls for a stage of a character's thread: for the second one if it answers the
opening, and for the closing one if it answers the reply. -/
def CallsFor (id : Str) (c : Character) (s : Stage) : Prop :=
  (s = .second ∧ (c.id ++ ("_l1_" : Text)) <+: id.front)
    ∨ (s = .close ∧ (c.id ++ ("_l2_" : Text)) <+: id.front)

/-- The labels behind a route: one of them is raised as the choice calls for, or all that name a
stage are left, when the thread stands there already. -/
theorem progress_resolveStr (id : Str) (completed : List Str) (p : List (Str × Str)) :
  (∃ c s, CallsFor id c s ∧ Progress.Raised c s (Progress.ofStrs p).valid
      (.ofStages (resolveStr id completed p).progress))
    ∨ .ofStages (resolveStr id completed p).progress = (Progress.ofStrs p).valid
      ∧ ∀ c s, CallsFor id c s →
        ∃ old, Entries.get? (Progress.ofStrs p).valid c.thread = some old.label ∧ s ≤ old
  := by
  rw [← Progress.ofStages_stages]
  obtain ⟨c, s, hs, hraised⟩ | ⟨hsame, hstands⟩ :=
    progress_ofKind (distinct completed) (Progress.ofStrs p).stages (ChoiceKind.ofStr id)
  · exact Or.inl ⟨c, s, ChoiceKind.raises_ofStr_eq_some_iff.mp hs, hraised⟩
  · refine Or.inr ⟨congrArg Progress.ofStages hsame, fun c s hs => ?_⟩
    have hle := hstands c s (ChoiceKind.raises_ofStr_eq_some_iff.mpr hs)
    rw [stageOf] at hle
    cases hget : Entries.get? (Progress.ofStrs p).stages c.thread with
    | none =>
        rw [hget, Option.getD_none] at hle
        obtain ⟨rfl, -⟩ | ⟨rfl, -⟩ := hs
        · exact absurd hle (by decide)
        · exact absurd hle (by decide)
    | some old =>
        rw [hget, Option.getD_some] at hle
        refine ⟨old, ?_, hle⟩
        rw [Progress.get?_ofStages, hget]
        rfl

/-- Whatever the choice, the completed threads and the labels of the threads: there is a route.
Its fragment is not empty, a parser without a tail limit finishes segments of it and, unless the
story ends, finds a choice that is enabled.  Of the completed threads the later repetitions are
dropped, and one goes last if the choice completes it and it was not among them.  The labels that
name no stage are dropped, and one of the others is raised if the choice calls for a higher stage
of its thread.  The story ends with the one choice that ends it. -/
theorem resolve_local (id : Str) (completed : List Str) (p : List (Str × Str)) :
  let r := resolveStr id completed p
  let valid := (Progress.ofStrs p).valid
  ofJson id (completed.map .str) (Entries.mapValues .str p) = .ok r
    ∧ r.fragment ≠ []
    ∧ (∀ defaults, ∃ new q, (Parser.new .off defaults).feed r.fragment = (.ok new, q)
      ∧ new ≠ [] ∧ q.segments = new
      ∧ (r.final = false → ∃ o ∈ q.choices, o.disabled = false))
    ∧ (∃ gained : Option Character,
      (∀ c, gained = some c
        ↔ id = .text (("hub_return_after_" : Text) ++ c.id) ∧ c.thread ∉ completed)
      ∧ r.completed = completed.eraseDups ++ (gained.map Character.thread).toList)
    ∧ ((∃ c s, CallsFor id c s ∧ Progress.Raised c s valid (.ofStages r.progress))
      ∨ .ofStages r.progress = valid
        ∧ ∀ c s, CallsFor id c s → ∃ old, Entries.get? valid c.thread = some old.label ∧ s ≤ old)
    ∧ (r.final = true ↔ id = .text "end_story")
  := by
  intro r valid
  refine ⟨ofJson_str id completed p, (exists_feed_fragment id completed p []).1,
    fun defaults => (exists_feed_fragment id completed p defaults).2, ?_,
    progress_resolveStr id completed p, ?_⟩
  · obtain ⟨gained, hgained, hcompleted⟩ :=
      completed_ofKind (distinct completed) (Progress.ofStrs p).stages (ChoiceKind.ofStr id)
    refine ⟨gained, fun c => ?_, ?_⟩
    · rw [hgained, ChoiceKind.ofStr_eq_returnToHub_iff, mem_distinct]
    · rw [← distinct_eq_eraseDups]
      exact hcompleted
  · exact (final_ofKind _ _ _).trans ChoiceKind.ofStr_eq_endStory_iff

/-! ### The same choice again -/

/-- A thread that was raised is not raised again. -/
theorem advance_advance {κ : Type} [ThreadName κ] [DecidableEq κ] (es : List (κ × Stage)) (c : Character) (s : Stage) :
  advance (advance es c s) c s = advance es c s
  := by
  unfold advance
  by_cases hlt : (stageOf es c).rank < s.rank
  · rw [if_pos hlt, stageOf_put, if_neg (lt_irrefl _)]
  · rw [if_neg hlt, if_neg hlt]

/-- A thread that was completed is not completed again. -/
theorem addOnce_addOnce {α : Type} [BEq α] [LawfulBEq α] (names : List α) (name : α) :
  addOnce (addOnce names name) name = addOnce names name
  := by
  have hname : (addOnce names name).contains name = true := by
    rw [List.contains_iff_mem]
    exact mem_addOnce.mpr (Or.inr rfl)
  exact if_pos hname

section

variable {κ : Type} [ThreadName κ] [DecidableEq κ] [BEq κ] [LawfulBEq κ]

/-- A choice of the same kind shows the same again and changes nothing further. -/
theorem ofKind_again (completed : List κ) (es : List (κ × Stage)) (k : ChoiceKind) :
  ofKind (ofKind completed es k).completed (ofKind completed es k).progress k
    = ofKind completed es k
  := by
  cases k with
  | stageOne c => simp only [ofKind, advance_advance]
  | stageTwo c => simp only [ofKind, advance_advance]
  | returnToHub c => simp only [ofKind, addOnce_addOnce]
  | _ => rfl

omit [ThreadName κ] [DecidableEq κ] in
/-- Names that are listed once each are not repeated. -/
theorem nodup_distinct (names : List κ) :
  (distinct names).Nodup
  := by
  induction names using List.reverseRecOn with
  | nil => exact List.nodup_nil
  | append_singleton names name ih =>
      rw [distinct_append_singleton]
      exact nodup_addOnce ih name

/-- Taken from the state that its route left, a choice has the same route. -/
theorem ofKind_distinct_again (completed : List κ) (es : List (κ × Stage)) (k : ChoiceKind) :
  let r := ofKind (distinct completed) es k
  ofKind (distinct r.completed) r.progress k = r
  := by
  intro r
  have hnodup : r.completed.Nodup := nodup_completed_ofKind (nodup_distinct completed) es k
  rw [distinct_of_nodup hnodup]
  exact ofKind_again _ _ _

end

/-- Whatever the choice and the state of the threads in texts: routed again from the state that its
route left, the choice has the same route. -/
theorem resolve_again (id : Text) (completed : List Text) (p : Progress) :
  let r := resolve id completed p
  resolve id r.completed (.ofStages r.progress) = r
  := by
  intro r
  rw [resolve, Progress.stages_ofStages]
  exact ofKind_distinct_again completed p.stages _

/-- Whatever the choice and the state of the threads: routed again from the state that its route
left, the choice has the same route, with the same fragment and the same state of the threads in
the same order. -/
theorem resolveStr_again (id : Str) (completed : List Str) (p : List (Str × Str)) :
  let r := resolveStr id completed p
  resolveStr id r.completed (Entries.mapValues (fun s => .text s.label) r.progress) = r
  := by
  intro r
  rw [resolveStr, Progress.ofStrs_labels, Progress.stages_ofStages]
  exact ofKind_distinct_again completed (Progress.ofStrs p).stages _

end Route

end BranchingStory
