import BranchingStory.Proofs.Narrative.Scene
import BranchingStory.Record.Conversation

/-!
# How a conversation stands

A conversation that is played has not started, stands behind the opening, shows a scene or has
ended.  Wherever it stands with its threads in order, it is sound.
-/

namespace BranchingStory

/-! ### Default choices -/

namespace Parser

/-- The default choices have different ids. -/
theorem nodup_defaultChoices :
  (defaultChoices.map (·.id)).Nodup
  := by decide

/-- A default choice takes up a thread or shows the hub. -/
theorem kind_defaultChoices :
  ∀ o ∈ defaultChoices,
    ChoiceKind.ofId o.id = .talk .zhongli ∨ ChoiceKind.ofId o.id = .unrecognized
  := by decide

/-- A default choice shows the hub. -/
theorem exists_default :
  ∃ o ∈ defaultChoices, o.disabled = false ∧ Text.isBlankOnly o.id = false
    ∧ Route.showsHub (ChoiceKind.ofId o.id) = true
  := by decide

end Parser

namespace Conversation

/-- A conversation that has not started. -/
structure IsUnstarted (c : Conversation) : Prop where
  segments : c.segments = []
  choices : c.choices = []
  finished : c.finished = false

/-- A choice that a conversation accepts: the last one that is offered under its name is
enabled. -/
structure Accepts (c : Conversation) (choice : Text) : Prop where
  notBlank : Text.isBlankOnly choice = false
  notFinished : c.finished = false
  enabled : ∃ o, c.choices.reverse.find? (·.id == choice) = some o ∧ o.disabled = false

variable {c : Conversation} {es : Entries Stage} {chosen : Bool}

/-- How a conversation that is played stands: nothing is offered before its start, the default
choices are offered behind the opening, then what a scene offers, and nothing at the end;
`chosen` tells whether a choice was taken. -/
inductive Stands (c : Conversation) (es : Entries Stage) : (chosen : Bool) → Prop where
  | unstarted (h : c.IsUnstarted) (completed : c.completed = []) : Stands c es false
  | opened (choices : c.choices = Parser.defaultChoices) (finished : c.finished = false)
      (completed : c.completed = []) : Stands c es false
  | inScene (scene : Scene) (choices : c.choices = scene.offers c.completed es)
      (finished : c.finished = false) : Stands c es true
  | ended (choices : c.choices = []) (finished : c.finished = true) : Stands c es true

/-- What is offered has different names. -/
theorem Stands.nodup (h : c.Stands es chosen) :
  (c.choices.map (·.id)).Nodup
  := by
  cases h with
  | unstarted h _ =>
      rw [h.choices]
      apply List.nodup_nil
  | opened hc _ _ =>
      rw [hc]
      apply Parser.nodup_defaultChoices
  | inScene scene hc _ =>
      rw [hc]
      apply Scene.nodup_ids
  | ended hc _ =>
      rw [hc]
      apply List.nodup_nil

/-- What is offered fits how the threads stand. -/
theorem Stands.fits (h : c.Stands es chosen) (ht : Threads c.completed es) {o : Choice}
    (ho : o ∈ c.choices) :
  (ChoiceKind.ofId o.id).Fits c.completed es
  := by
  cases h with
  | unstarted h _ =>
      rw [h.choices] at ho
      cases ho
  | opened hc _ hcompleted =>
      rw [hc] at ho
      obtain hk | hk := Parser.kind_defaultChoices o ho
      · rw [hk, hcompleted]
        apply List.not_mem_nil
      · rw [hk]
        trivial
  | inScene scene hc _ =>
      rw [hc] at ho
      apply (Scene.offers_fit ht ho).1
  | ended hc _ =>
      rw [hc] at ho
      cases ho

/-- A choice that stands is of a kind that fits the threads. -/
theorem Stands.fits_kind (h : c.Stands es chosen) (ht : Threads c.completed es) {o : Choice}
    (ho : o ∈ c.choices) {k : ChoiceKind} (hk : ChoiceKind.ofId o.id = k) :
  k.Fits c.completed es
  := by
  rw [← hk]
  apply h.fits ht ho

/-- Once a choice was taken, what is enabled is recognized. -/
theorem Stands.recognized (h : c.Stands es true) (ht : Threads c.completed es) {o : Choice}
    (ho : o ∈ c.choices) (henabled : o.disabled = false) :
  ChoiceKind.ofId o.id ≠ .unrecognized
  := by
  cases h with
  | inScene scene hc _ =>
      rw [hc] at ho
      apply (Scene.offers_fit ht ho).2 henabled
  | ended hc _ =>
      rw [hc] at ho
      cases ho

/-- A choice that is offered under a name of its own is found by its name. -/
theorem find?_reverse {cs : List Choice} (h : (cs.map (·.id)).Nodup) {o : Choice} (ho : o ∈ cs) :
  cs.reverse.find? (·.id == o.id) = some o
  := by
  cases hf : cs.reverse.find? (·.id == o.id) with
  | none =>
      have hnot := List.find?_eq_none.mp hf o (List.mem_reverse.mpr ho)
      simp at hnot
  | some p =>
      have hp := List.mem_reverse.mp (List.mem_of_find?_eq_some hf)
      have hid := List.find?_some hf
      rw [List.inj_on_of_nodup_map h hp ho (by simpa using hid)]

/-- Nothing is offered at the end. -/
theorem Stands.notFinished (h : c.Stands es chosen) {o : Choice} (ho : o ∈ c.choices) :
  c.finished = false
  := by
  cases h with
  | unstarted h _ => exact h.finished
  | opened _ hf _ => exact hf
  | inScene _ _ hf => exact hf
  | ended hc _ =>
      rw [hc] at ho
      cases ho

/-- A choice that is enabled and has a name is accepted. -/
theorem Stands.accepts (h : c.Stands es chosen) {o : Choice} (ho : o ∈ c.choices)
    (henabled : o.disabled = false) (hname : Text.isBlankOnly o.id = false) :
  c.Accepts o.id
  := ⟨hname, h.notFinished ho, o, find?_reverse h.nodup ho, henabled⟩

/-! ### Soundness -/

/-- What holds of a conversation that is played, whatever choices were taken: its completed
threads are those of characters, named once, and have closed; its progress is that of threads
of characters at the second or at the closing stage; answers are offered in the thread that
waits for them, and the way back where a thread has closed; no completed thread can be taken
up; and what is offered has different names. -/
structure IsSound (c : Conversation) : Prop where
  completedNodup : c.completed.Nodup
  completed : ∀ t ∈ c.completed, (∃ ch : Character, t = ch.id)
    ∧ Entries.get? c.progress t = some ("CLOSE" : Text)
  progressNodup : (c.progress.map (·.1)).Nodup
  progress : ∀ e ∈ c.progress, (∃ ch : Character, e.1 = ch.id)
    ∧ (e.2 = ("L2" : Text) ∨ e.2 = ("CLOSE" : Text))
  stageOne : ∀ o ∈ c.choices, ∀ ch : Character, (ch.id ++ ("_l1_" : Text)) <+: o.id →
    Entries.get? c.progress ch.id = none
  stageTwo : ∀ o ∈ c.choices, ∀ ch : Character, (ch.id ++ ("_l2_" : Text)) <+: o.id →
    Entries.get? c.progress ch.id = some ("L2" : Text)
  returns : ∀ o ∈ c.choices, ∀ ch : Character, o.id = ("hub_return_after_" : Text) ++ ch.id →
    Entries.get? c.progress ch.id = some ("CLOSE" : Text)
  talks : ∀ o ∈ c.choices, ∀ ch : Character, o.id = ("talk_" : Text) ++ ch.id →
    o.disabled = false → ch.id ∉ c.completed
  names : (c.choices.map (·.id)).Nodup

/-- A conversation whose threads are in order and whose choices stand as they should is
sound. -/
theorem Stands.isSound (h : c.Stands es chosen) (ht : Threads c.completed es)
    (hes : c.progress = .ofStages es) :
  c.IsSound
  := by
  refine ⟨ht.completedNodup, ?_, ?_, ?_, ?_, ?_, ?_, ?_, h.nodup⟩
  · intro t hm
    use ht.character_of_completed hm
    rw [hes, Progress.get?_ofStages, ht.closed t hm]
    rfl
  · rw [hes, Progress.keys_ofStages]
    apply ht.nodup
  · intro e he
    rw [hes] at he
    obtain ⟨a, ha, rfl⟩ := List.mem_map.mp he
    use ht.characters a ha
    obtain hs | hs := ht.stages a ha
    · rw [hs]
      exact Or.inl rfl
    · rw [hs]
      exact Or.inr rfl
  · intro o ho ch hpre
    have hk := ChoiceKind.ofId_of_lead (ChoiceKind.mem_leads ch).1
      (List.isPrefixOf_iff_prefix.mpr hpre)
    have hf : Entries.get? es ch.id = none := h.fits_kind ht ho hk
    rw [hes, Progress.get?_ofStages, hf]
    rfl
  · intro o ho ch hpre
    have hk := ChoiceKind.ofId_of_lead (ChoiceKind.mem_leads ch).2
      (List.isPrefixOf_iff_prefix.mpr hpre)
    have hf : Entries.get? es ch.id = some .second := h.fits_kind ht ho hk
    rw [hes, Progress.get?_ofStages, hf]
    rfl
  · intro o ho ch hid
    have hk : ChoiceKind.ofId o.id = .returnToHub ch := by
      rw [hid]
      apply ChoiceKind.ofId_return
    have hf : Entries.get? es ch.id = some .close := h.fits_kind ht ho hk
    rw [hes, Progress.get?_ofStages, hf]
    rfl
  · intro o ho ch hid _
    have hk : ChoiceKind.ofId o.id = .talk ch := by
      rw [hid]
      apply ChoiceKind.ofId_talkId
    apply h.fits_kind ht ho hk

end Conversation

end BranchingStory
