import BranchingStory.Proofs.Markup.RoundTrip
import BranchingStory.Proofs.Narrative.ChoiceKind
import BranchingStory.Proofs.Narrative.Threads
import BranchingStory.Record.Routing

/-!
# Scenes

Before its end the story shows the hub or a thread where it stands.  What these scenes offer
fits how the threads stand, and the route of what they offer shows a scene again or the
epilogue.
-/

namespace BranchingStory

/-! ### Options on lines of their own -/

/-- A choice with a name and without blanks around its texts. -/
structure Choice.IsTrim (c : Choice) : Prop where
  named : c.id ≠ []
  id : Text.trim c.id = c.id
  text : Text.trim c.text = c.text

instance (c : Choice) : Decidable c.IsTrim :=
  decidable_of_iff (c.id ≠ [] ∧ Text.trim c.id = c.id ∧ Text.trim c.text = c.text)
    ⟨fun h => ⟨h.1, h.2.1, h.2.2⟩, fun h => ⟨h.named, h.id, h.text⟩⟩

namespace Passage

theorem onLines_cons_cons {α : Type} (a b : α) (as : List α) :
  onLines (a :: b :: as) = (a, ("\n  " : Text)) :: onLines (b :: as)
  := rfl

/-- Items on lines are the items. -/
theorem map_fst_onLines {α : Type} (as : List α) :
  (onLines as).map (·.1) = as
  := by
  induction as with
  | nil => rfl
  | cons a as ih =>
      cases as with
      | nil => rfl
      | cons b as => rw [onLines_cons_cons, List.map_cons, ih]

/-- An item on a line is one of the items, and no tag opens behind it. -/
theorem mem_onLines {α : Type} {as : List α} {a : α × Text} (h : a ∈ onLines as) :
  a.1 ∈ as ∧ '<' ∉ a.2
  := by
  induction as with
  | nil => cases h
  | cons b as ih =>
      cases as with
      | nil =>
          rw [onLines, List.mem_singleton] at h
          simp [h]
      | cons c as =>
          rw [onLines_cons_cons, List.mem_cons] at h
          obtain rfl | h := h
          · have hgap : '<' ∉ ("\n  " : Text) := by decide
            exact ⟨List.mem_cons_self, hgap⟩
          · exact ⟨List.mem_cons_of_mem _ (ih h).1, (ih h).2⟩

variable {os : List Choice}

/-- Trimmed options on lines of their own are offered as they are. -/
theorem offers_choicesOnLines (h : ∀ o ∈ os, o.IsTrim) :
  (choicesOnLines os).offers = os
  := by
  have hkeep : (onLines os).filter (fun o => Text.trim o.1.id ≠ []) = onLines os := by
    apply List.filter_eq_self.mpr
    intro o ho
    have ht := h o.1 (mem_onLines ho).1
    rw [ht.id]
    simpa using ht.named
  have hsame : (onLines os).map (fun o => (⟨Text.trim o.1.id, Text.trim o.1.text, o.1.disabled⟩
      : Choice)) = (onLines os).map (·.1) := by
    apply List.map_congr_left
    intro o ho
    have ht := h o.1 (mem_onLines ho).1
    rw [ht.id, ht.text]
  rw [choicesOnLines, offers, hkeep, hsame, map_fst_onLines]

/-- Plain choices make a plain passage. -/
theorem isPlain_choicesOnLines (h : ∀ o ∈ os, o.IsPlain) :
  (choicesOnLines os).IsPlain
  := ⟨by decide, fun o ho => ⟨h o.1 (mem_onLines ho).1, (mem_onLines ho).2⟩⟩

end Passage

/-! ### The hub -/

namespace Hub

variable {κ : Type} [ThreadName κ] [BEq κ] {completed : List κ} {o : Choice}

/-- What the hub offers. -/
theorem mem_options (h : o ∈ entries completed ++ [ending]) :
  (∃ c, o = entry completed c) ∨ o = ending
  := by
  rw [List.mem_append, List.mem_singleton] at h
  obtain h | rfl := h
  · obtain ⟨c, -, rfl⟩ := List.mem_map.mp h
    exact Or.inl ⟨c, rfl⟩
  · exact Or.inr rfl

/-- The entry of a thread is enabled until the thread is completed. -/
theorem entry_cases [LawfulBEq κ] (completed : List κ) (c : Character) :
  c.thread ∈ completed ∧ entry completed c = ⟨c.completedId, c.hubLabel ++ completedMark, true⟩
    ∨ c.thread ∉ completed ∧ entry completed c = ⟨c.talkId, c.hubLabel, false⟩
  := by
  unfold entry
  by_cases h : c.thread ∈ completed
  · rw [if_pos (by simpa using h)]
    exact Or.inl ⟨h, rfl⟩
  · rw [if_neg (by simpa using h)]
    exact Or.inr ⟨h, rfl⟩

variable [LawfulBEq κ]

/-- What the hub offers is trimmed and no markup. -/
theorem isTrim_isPlain (h : o ∈ entries completed ++ [ending]) :
  o.IsTrim ∧ o.IsPlain
  := by
  obtain ⟨c, rfl⟩ | rfl := mem_options h
  · obtain ⟨-, h⟩ | ⟨-, h⟩ := entry_cases completed c
    · rw [h]
      cases c <;> decide
    · rw [h]
      cases c <;> decide
  · decide

/-- The hub offers its entries and the ending. -/
theorem offers_passages (completed : List κ) :
  (passages completed).flatMap (·.offers) = entries completed ++ [ending]
  := by
  have h : (Passage.choicesOnLines (entries completed ++ [ending])).offers
      = entries completed ++ [ending] :=
    Passage.offers_choicesOnLines fun o ho => (isTrim_isPlain ho).1
  rw [passages, List.flatMap_cons, List.flatMap_singleton, h]
  rfl

/-- The hub is made of plain passages. -/
theorem isPlain_passages (completed : List κ) :
  ∀ p ∈ passages completed, p.IsPlain
  := by
  intro p hp
  rw [passages, List.mem_cons, List.mem_singleton] at hp
  obtain rfl | rfl := hp
  · decide
  · apply Passage.isPlain_choicesOnLines
    intro o ho
    apply (isTrim_isPlain ho).2

/-- What the hub offers has different names. -/
theorem nodup_ids (completed : List κ) :
  ((entries completed ++ [ending]).map (·.id)).Nodup
  := by
  have hid (c : Character) : (entry completed c).id = c.completedId
      ∨ (entry completed c).id = c.talkId := by
    obtain ⟨-, h⟩ | ⟨-, h⟩ := entry_cases completed c
    · exact Or.inl (congrArg Choice.id h)
    · exact Or.inr (congrArg Choice.id h)
  have hids : (entries completed ++ [ending]).map (·.id)
      = [(entry completed .lumine).id, (entry completed .zhongli).id,
        (entry completed .tartaglia).id, (entry completed .venti).id, endStoryId] := rfl
  rw [hids]
  obtain h₁ | h₁ := hid .lumine <;> obtain h₂ | h₂ := hid .zhongli
    <;> obtain h₃ | h₃ := hid .tartaglia <;> obtain h₄ | h₄ := hid .venti
    <;> rw [h₁, h₂, h₃, h₄] <;> decide

end Hub

/-! ### The threads -/

namespace Fragment

/-! The authored texts are searched character by character as lists: reading the characters of a
string anew at every step is slow. -/

/-- The opening of a character is made of plain passages. -/
theorem isPlain_openingOf (c : Character) :
  ∀ p ∈ openingOf c, p.IsPlain
  := by
  cases c
  all_goals
    rw [openingOf]
    repeat rw [String.toList_ofList]
    decide

/-- The reply to a character is made of plain passages. -/
theorem isPlain_replyOf (c : Character) :
  ∀ p ∈ replyOf c, p.IsPlain
  := by
  cases c
  all_goals
    rw [replyOf]
    repeat rw [String.toList_ofList]
    decide

/-- The closing of a character is made of plain passages. -/
theorem isPlain_closingOf (c : Character) :
  ∀ p ∈ closingOf c, p.IsPlain
  := by
  cases c
  all_goals
    rw [closingOf]
    repeat rw [String.toList_ofList]
    decide

/-- The fragment of every stage is made of plain passages. -/
theorem isPlain_passages (c : Character) (s : Stage) :
  ∀ p ∈ passages c s, p.IsPlain
  := by
  cases s with
  | unset => apply isPlain_openingOf
  | first => apply isPlain_openingOf
  | second => apply isPlain_replyOf
  | close => apply isPlain_closingOf

/-- The epilogue is made of plain passages. -/
theorem isPlain_epilogue :
  ∀ p ∈ epiloguePassages, p.IsPlain
  := by
  rw [epiloguePassages]
  repeat rw [String.toList_ofList]
  decide

/-- The opening of the story is made of plain passages. -/
theorem isPlain_prologue :
  ∀ p ∈ prologuePassages, p.IsPlain
  := by
  rw [prologuePassages]
  repeat rw [String.toList_ofList]
  decide

/-- The choices that the passages of a thread offer at a stage. -/
def offers (c : Character) (s : Stage) : List Choice :=
  (passages c s).flatMap (·.offers)

/-- The choices of a fragment have different ids. -/
theorem nodup_ids (c : Character) (s : Stage) :
  ((offers c s).map (·.id)).Nodup
  := by
  cases c <;> cases s <;> decide

/-- The opening of a thread offers answers to it and the way back. -/
theorem offers_opening (c : Character) :
  ∀ o ∈ offers c .unset,
    ChoiceKind.ofId o.id = .stageOne c ∨ ChoiceKind.ofId o.id = .chooseOther
  := by
  cases c <;> decide

/-- The reply of a thread offers answers to it and the way back. -/
theorem offers_reply (c : Character) :
  ∀ o ∈ offers c .second,
    ChoiceKind.ofId o.id = .stageTwo c ∨ ChoiceKind.ofId o.id = .chooseOther
  := by
  cases c <;> decide

/-- The closing of a thread offers to complete it. -/
theorem offers_closing (c : Character) :
  ∀ o ∈ offers c .close, ChoiceKind.ofId o.id = .returnToHub c
  := by
  cases c <;> decide

/-- A thread offers a way back to the hub at every stage. -/
theorem exists_wayBack (c : Character) (s : Stage) :
  ∃ o ∈ offers c s, o.disabled = false ∧ Text.isBlankOnly o.id = false
    ∧ Route.showsHub (ChoiceKind.ofId o.id) = true
  := by
  cases c <;> cases s <;> decide

end Fragment

/-! ### Scenes -/

/-- What a step of the story shows before its end. -/
inductive Scene where
  | hub
  | thread (c : Character)

/-- The id that leads to a character is of this kind. -/
theorem ChoiceKind.ofId_talkId (c : Character) :
  ofId c.talkId = talk c
  := by
  cases c <;> decide

theorem ChoiceKind.ofId_completedId (c : Character) :
  ofId c.completedId = unrecognized
  := by
  cases c <;> decide

namespace Scene

/-- The passages of a scene for how the threads stand. -/
def passages (completed : List Text) (es : Entries Stage) : Scene → List Passage
  | hub => Hub.passages completed
  | thread c => Fragment.passages c (Route.stageOf es c)

/-- The choices that the passages of a scene offer. -/
def offers (completed : List Text) (es : Entries Stage) (scene : Scene) : List Choice :=
  (scene.passages completed es).flatMap (·.offers)

variable {completed : List Text} {es : Entries Stage}

/-- Every scene is made of plain passages. -/
theorem isPlain_passages (completed : List Text) (es : Entries Stage) (scene : Scene) :
  ∀ p ∈ scene.passages completed es, p.IsPlain
  := by
  cases scene with
  | hub => apply Hub.isPlain_passages
  | thread c => apply Fragment.isPlain_passages

theorem offers_hub (completed : List Text) (es : Entries Stage) :
  hub.offers completed es = Hub.entries completed ++ [Hub.ending]
  := Hub.offers_passages completed

/-- What a scene offers has different names. -/
theorem nodup_ids (completed : List Text) (es : Entries Stage) (scene : Scene) :
  ((scene.offers completed es).map (·.id)).Nodup
  := by
  cases scene with
  | hub =>
      rw [offers_hub]
      apply Hub.nodup_ids
  | thread c => apply Fragment.nodup_ids

/-- What a scene offers fits how the threads stand, and what is enabled is recognized. -/
theorem offers_fit (h : Threads completed es) {scene : Scene} {o : Choice}
    (ho : o ∈ scene.offers completed es) :
  (ChoiceKind.ofId o.id).Fits completed es
    ∧ (o.disabled = false → ChoiceKind.ofId o.id ≠ .unrecognized)
  := by
  cases scene with
  | hub =>
      rw [offers_hub] at ho
      obtain ⟨c, rfl⟩ | rfl := Hub.mem_options ho
      · obtain ⟨-, he⟩ | ⟨hc, he⟩ := Hub.entry_cases completed c
        · rw [he, ChoiceKind.ofId_completedId]
          simp [ChoiceKind.Fits]
        · rw [he, ChoiceKind.ofId_talkId]
          exact ⟨hc, by simp⟩
      · exact ⟨trivial, by decide⟩
  | thread c =>
      have ho : o ∈ Fragment.offers c (Route.stageOf es c) := ho
      obtain hs | hs | hs := h.get?_cases c
      · rw [Route.stageOf, Character.thread_text, hs] at ho
        obtain hk | hk := Fragment.offers_opening c o ho
        · rw [hk]
          exact ⟨hs, by simp⟩
        · rw [hk]
          exact ⟨trivial, by simp⟩
      · rw [Route.stageOf, Character.thread_text, hs] at ho
        obtain hk | hk := Fragment.offers_reply c o ho
        · rw [hk]
          exact ⟨hs, by simp⟩
        · rw [hk]
          exact ⟨trivial, by simp⟩
      · rw [Route.stageOf, Character.thread_text, hs] at ho
        rw [Fragment.offers_closing c o ho]
        exact ⟨hs, by simp⟩

/-- A scene other than the hub offers a way back to it. -/
theorem exists_wayBack (completed : List Text) (es : Entries Stage) (scene : Scene) :
  scene = hub ∨ ∃ o ∈ scene.offers completed es, o.disabled = false
    ∧ Text.isBlankOnly o.id = false ∧ Route.showsHub (ChoiceKind.ofId o.id) = true
  := by
  cases scene with
  | hub => exact Or.inl rfl
  | thread c => exact Or.inr (Fragment.exists_wayBack c _)

/-- The hub offers the end of the story. -/
theorem ending_mem (completed : List Text) (es : Entries Stage) :
  Hub.ending ∈ hub.offers completed es
  := by
  rw [offers_hub]
  simp

/-- Every scene but the epilogue offers something. -/
theorem offers_ne_nil (completed : List Text) (es : Entries Stage) (scene : Scene) :
  scene.offers completed es ≠ []
  := by
  obtain rfl | ⟨o, ho, -⟩ := exists_wayBack completed es scene
  · apply List.ne_nil_of_mem (ending_mem completed es)
  · apply List.ne_nil_of_mem ho

end Scene

/-- The route of a choice that fits, unless it ends the story, shows a scene: the hub, when
that is what the choice asks for, or a thread where it stands then. -/
theorem Route.exists_scene {completed : List Text} {es : Entries Stage} {k : ChoiceKind}
    (hk : k.Fits completed es) (hne : k ≠ .endStory) :
  (ofKind completed es k).final = false
    ∧ ∃ scene : Scene,
      (ofKind completed es k).fragment = Passage.printAll "\n\n"
        (scene.passages (ofKind completed es k).completed (ofKind completed es k).progress)
      ∧ (showsHub k = true → scene = .hub)
  := by
  cases k with
  | talk c => exact ⟨rfl, .thread c, rfl, by simp [showsHub]⟩
  | stageOne c =>
      refine ⟨rfl, .thread c, ?_, by simp [showsHub]⟩
      rw [ofKind, advance_second hk, Scene.passages, ← Character.thread_text, stageOf_put]
      rfl
  | stageTwo c =>
      refine ⟨rfl, .thread c, ?_, by simp [showsHub]⟩
      rw [ofKind, advance_close hk, Scene.passages, ← Character.thread_text, stageOf_put]
      rfl
  | returnToHub c => exact ⟨rfl, .hub, rfl, fun _ => rfl⟩
  | chooseOther => exact ⟨rfl, .hub, rfl, fun _ => rfl⟩
  | endStory => contradiction
  | unrecognized => exact ⟨rfl, .hub, rfl, fun _ => rfl⟩

/-- Whatever the kind of a choice and the threads, the route shows plain passages with a gap
between them that offer something, unless it is the last one. -/
theorem Route.exists_passages (completed : List Text) (es : Entries Stage) (k : ChoiceKind) :
  ∃ (gap : Text) (ps : List Passage), '<' ∉ gap ∧ (∀ p ∈ ps, p.IsPlain)
    ∧ (ofKind completed es k).fragment = Passage.printAll gap ps
    ∧ ((ofKind completed es k).final = true ∨ ps.flatMap (·.offers) ≠ [])
  := by
  have hgap : '<' ∉ ("\n\n" : Text) := by decide
  have hhub (names : List Text) : (Hub.passages names).flatMap (·.offers) ≠ [] := by
    rw [Hub.offers_passages]
    simp
  have hthread (c : Character) (s : Stage) : (Fragment.passages c s).flatMap (·.offers) ≠ [] := by
    obtain ⟨o, ho, -⟩ := Fragment.exists_wayBack c s
    apply List.ne_nil_of_mem ho
  cases k with
  | talk c => exact ⟨_, _, hgap, Fragment.isPlain_passages c _, rfl, Or.inr (hthread c _)⟩
  | stageOne c =>
      exact ⟨_, _, hgap, Fragment.isPlain_passages c .second, rfl, Or.inr (hthread c .second)⟩
  | stageTwo c =>
      exact ⟨_, _, hgap, Fragment.isPlain_passages c .close, rfl, Or.inr (hthread c .close)⟩
  | returnToHub c => exact ⟨_, _, hgap, Hub.isPlain_passages _, rfl, Or.inr (hhub _)⟩
  | endStory =>
      exact ⟨_, _, by decide, Fragment.isPlain_epilogue, rfl, Or.inl rfl⟩
  | chooseOther => exact ⟨_, _, hgap, Hub.isPlain_passages _, rfl, Or.inr (hhub _)⟩
  | unrecognized => exact ⟨_, _, hgap, Hub.isPlain_passages _, rfl, Or.inr (hhub _)⟩

end BranchingStory
