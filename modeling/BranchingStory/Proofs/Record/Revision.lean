import BranchingStory.Proofs.Narrative.Rising
import BranchingStory.Proofs.Record.ReadBack
import BranchingStory.Proofs.Record.Standing
import BranchingStory.Store.Archive

/-!
# Revised conversations

A conversation grows: what it is named and what happened in it stays, and its threads only rise.
The revisions that a story enters into a conversation let it grow, whatever they hold.
-/

namespace BranchingStory

namespace Route

/-- A name is added behind those that are there. -/
theorem prefix_addOnce (names : List Text) (name : Text) :
  names <+: addOnce names name
  := by
  unfold addOnce
  split_ifs
  · exact List.prefix_rfl
  · exact List.prefix_append _ _

/-- Names that stand once each still do when one is added. -/
theorem nodup_addOnce {α : Type} [BEq α] [LawfulBEq α] {names : List α} (h : names.Nodup)
    (name : α) :
  (addOnce names name).Nodup
  := by
  unfold addOnce
  split_ifs with hm
  · exact h
  · rw [← List.concat_eq_append]
    apply h.concat
    simpa using hm

/-- Behind a route completed threads are named once each, if they were before. -/
theorem nodup_completed_ofKind {κ : Type} [ThreadName κ] [DecidableEq κ] [BEq κ] [LawfulBEq κ]
    {completed : List κ} (h : completed.Nodup) (es : List (κ × Stage)) (k : ChoiceKind) :
  (ofKind completed es k).completed.Nodup
  := by
  cases k with
  | returnToHub c => exact nodup_addOnce h c.thread
  | _ => exact h

/-- Behind a choice completed threads are only added, and stay named once. -/
theorem completed_resolve {completed : List Text} (h : completed.Nodup) (id : Text)
    (p : Progress) :
  completed <+: (resolve id completed p).completed ∧ (resolve id completed p).completed.Nodup
  := by
  rw [resolve, distinct_of_nodup h]
  refine ⟨?_, nodup_completed_ofKind h _ _⟩
  cases ChoiceKind.ofId id with
  | returnToHub c => exact prefix_addOnce _ _
  | _ => exact List.prefix_rfl

end Route

namespace Conversation

variable {c d : Conversation}

/-- The state of the threads behind a choice can be stored. -/
theorem IsStorable.resolve (h : c.IsStorable) (id : Text)
    (hd : d.progress = .ofStages (Route.resolve id c.completed c.progress).progress) :
  d.IsStorable
  := by
  obtain ⟨es, hes, hn⟩ := h
  refine ⟨_, hd, ?_⟩
  rw [Route.resolve, hes, Progress.stages_ofStages]
  apply Route.nodup_ofKind hn

/-- A choice that is accepted is noted. -/
theorem Accepts.selected_revise {choice : Text} (h : c.Accepts choice) {r : Revision}
    (hr : r.selected = choice) (now : Text) :
  (c.revise r now).selected = c.selected ++ [choice]
  := by
  obtain ⟨o, hfind, -⟩ := h.enabled
  have hoffered : Choice.isOffered choice c.choices = true := by
    have hid := List.find?_some hfind
    exact List.any_eq_true.mpr ⟨o, List.mem_reverse.mp (List.mem_of_find?_eq_some hfind), hid⟩
  have hname : choice.isEmpty = false := by
    cases choice with
    | nil => cases h.notBlank
    | cons x choice => rfl
  simp [revise, hr, hoffered, hname]

/-! ### Growing -/

/-- The stage at which the thread of a name stands. -/
def stageAt (c : Conversation) (t : Text) : Stage :=
  (c.progress.stage? t).getD .unset

/-- A later version of a conversation: its names stay; segments, choices that were taken and
completed threads are only added; no thread moves backwards; and when it has ended, its
threads stay as they are. -/
structure Grows (c d : Conversation) : Prop where
  id : d.id = c.id
  title : d.title = c.title
  prompt : d.prompt = c.prompt
  session : d.session = c.session
  created : d.created = c.created
  segments : c.segments <+: d.segments
  selected : c.selected <+: d.selected
  completed : c.completed <+: d.completed
  stages : ∀ t, c.stageAt t ≤ d.stageAt t
  finished : c.finished = true →
    d.finished = true ∧ d.completed = c.completed ∧ d.progress = c.progress

theorem Grows.refl (c : Conversation) :
  c.Grows c
  := ⟨rfl, rfl, rfl, rfl, rfl, List.prefix_rfl, List.prefix_rfl, List.prefix_rfl, fun _ => le_rfl,
      fun h => ⟨h, rfl, rfl⟩⟩

/-- What grows and grows again grows. -/
theorem Grows.trans {e : Conversation} (h : c.Grows d) (h' : d.Grows e) :
  c.Grows e
  where
  id := h'.id.trans h.id
  title := h'.title.trans h.title
  prompt := h'.prompt.trans h.prompt
  session := h'.session.trans h.session
  created := h'.created.trans h.created
  segments := h.segments.trans h'.segments
  selected := h.selected.trans h'.selected
  completed := h.completed.trans h'.completed
  stages t := le_trans (h.stages t) (h'.stages t)
  finished hc := by
    obtain ⟨hd, hcompleted, hprogress⟩ := h.finished hc
    obtain ⟨he, hcompleted', hprogress'⟩ := h'.finished hd
    exact ⟨he, hcompleted'.trans hcompleted, hprogress'.trans hprogress⟩

/-- A conversation whose text is read back and whose completed threads are named once. -/
structure IsRegular (c : Conversation) : Prop where
  storable : c.IsStorable
  completed : c.completed.Nodup

/-- A new conversation is regular. -/
theorem isRegular_new (id title prompt session now : Text) :
  (new id title prompt session now).IsRegular
  := ⟨⟨[], rfl, List.nodup_nil⟩, List.nodup_nil⟩

/-- A revision that leaves the threads of a conversation, or enters how they stand behind a choice
if it has not ended. -/
inductive Suits (c : Conversation) (r : Revision) : Prop where
  | still (completed : r.completed = none) (progress : r.progress = none)
    (finished : r.finished = none)
  | choice (id : Text) (notFinished : c.finished = false)
    (completed : r.completed = some (Route.resolve id c.completed c.progress).completed)
    (progress :
      r.progress = some (.ofStages (Route.resolve id c.completed c.progress).progress))

variable {r : Revision}

/-- What a revision notes as taken was offered. -/
theorem exists_selected_revise (c : Conversation) (r : Revision) (now : Text) :
  ∃ new, (c.revise r now).selected = c.selected ++ new ∧ ∀ t ∈ new, t ∈ c.choices.map (·.id)
  := by
  by_cases h : (Choice.isOffered r.selected c.choices && !r.selected.isEmpty) = true
  · refine ⟨[r.selected], ?_, ?_⟩
    · rw [revise, if_pos h]
    · intro t ht
      rw [List.mem_singleton.mp ht]
      simp only [Bool.and_eq_true, Choice.isOffered, List.any_eq_true, beq_iff_eq] at h
      obtain ⟨⟨o, ho, hid⟩, -⟩ := h
      exact List.mem_map.mpr ⟨o, ho, hid⟩
  · refine ⟨[], ?_, ?_⟩
    · rw [revise, if_neg h, List.append_nil]
    · simp

/-- A thread does not move backwards behind a choice. -/
theorem IsStorable.stageAt_resolve (h : c.IsStorable) (id : Text)
    (hd : d.progress = .ofStages (Route.resolve id c.completed c.progress).progress) (t : Text) :
  c.stageAt t ≤ d.stageAt t
  := by
  obtain ⟨es, hes, hn⟩ := h
  have hkeys : (c.progress.map (·.1)).Nodup := by
    rw [hes, Progress.keys_ofStages]
    exact hn
  have hafter := Snapshot.stage?_afterKind (k := ⟨c.completed, c.progress⟩) hkeys (.ofId id) t
  rw [stageAt, stageAt, hd]
  apply (Stage.le_getD_max? _ _).trans_eq
  rw [← hafter]
  rfl

/-- A conversation that is read back is read back behind a revision that suits it. -/
theorem Suits.isStorable (hr : c.Suits r) (h : c.IsStorable) (now : Text) :
  (c.revise r now).IsStorable
  := by
  cases hr with
  | still _ hp _ =>
      obtain ⟨es, hes, hn⟩ := h
      refine ⟨es, ?_, hn⟩
      rw [revise, hp, Option.getD_none]
      exact hes
  | choice id _ _ hp =>
      apply h.resolve id
      rw [revise, hp, Option.getD_some]

/-- A revision that suits a regular conversation leaves it regular and lets it grow. -/
theorem Suits.grows (hr : c.Suits r) (h : c.IsRegular) (now : Text) :
  (c.revise r now).IsRegular ∧ c.Grows (c.revise r now)
  := by
  have hstorable := hr.isStorable h.storable now
  obtain ⟨new, hselected, -⟩ := exists_selected_revise c r now
  cases hr with
  | still hc hp hf =>
      have hcompleted : (c.revise r now).completed = c.completed := by
        rw [revise, hc, Option.getD_none]
      have hprogress : (c.revise r now).progress = c.progress := by
        rw [revise, hp, Option.getD_none]
      have hfinished : (c.revise r now).finished = c.finished := by
        rw [revise, hf, Option.getD_none]
      refine ⟨⟨hstorable, hcompleted ▸ h.completed⟩,
        ⟨rfl, rfl, rfl, rfl, rfl, List.prefix_append _ _, ⟨new, hselected.symm⟩,
          hcompleted ▸ List.prefix_rfl, ?_, ?_⟩⟩
      · intro t
        rw [stageAt, stageAt, hprogress]
      · rw [hfinished]
        exact fun hc => ⟨hc, hcompleted, hprogress⟩
  | choice id hnot hc hp =>
      have hcompleted : (c.revise r now).completed
          = (Route.resolve id c.completed c.progress).completed := by
        rw [revise, hc, Option.getD_some]
      have hprogress : (c.revise r now).progress
          = .ofStages (Route.resolve id c.completed c.progress).progress := by
        rw [revise, hp, Option.getD_some]
      obtain ⟨hadded, hnodup⟩ := Route.completed_resolve h.completed id c.progress
      rw [← hcompleted] at hadded hnodup
      refine ⟨⟨hstorable, hnodup⟩,
        ⟨rfl, rfl, rfl, rfl, rfl, List.prefix_append _ _, ⟨new, hselected.symm⟩, hadded,
          h.storable.stageAt_resolve id hprogress, ?_⟩⟩
      intro hfinished
      rw [hnot] at hfinished
      cases hfinished

end Conversation

end BranchingStory
