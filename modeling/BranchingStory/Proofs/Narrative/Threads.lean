import BranchingStory.Narrative.Route
import BranchingStory.Proofs.Entries

/-!
# Threads

How the threads of the characters may stand, and the kinds of choices that fit how they
stand.  The route of a choice that fits leaves the threads in order, and shows the hub, a
thread where it stands or the epilogue.
-/

namespace BranchingStory

/-- The threads of the characters in order: each that is under way stands once, at the second
or at the closing stage, and each that is completed is named once and has closed. -/
structure Threads (completed : List Text) (es : Entries Stage) : Prop where
  nodup : (es.map (·.1)).Nodup
  characters : ∀ e ∈ es, ∃ c : Character, e.1 = c.id
  stages : ∀ e ∈ es, e.2 = .second ∨ e.2 = .close
  completedNodup : completed.Nodup
  closed : ∀ t ∈ completed, Entries.get? es t = some .close

/-- A kind of choice that fits how the threads stand: a thread is taken up until it is
completed, its opening is answered before it stands anywhere, its reply while it stands
there, and the way back is taken when it has closed. -/
def ChoiceKind.Fits (completed : List Text) (es : Entries Stage) : ChoiceKind → Prop
  | talk c => c.id ∉ completed
  | stageOne c => Entries.get? es c.id = none
  | stageTwo c => Entries.get? es c.id = some .second
  | returnToHub c => Entries.get? es c.id = some .close
  | _ => True

namespace Threads

variable {completed : List Text} {es : Entries Stage} {c : Character}

/-- Nothing has begun. -/
theorem nil :
  Threads [] []
  := ⟨List.nodup_nil, by simp, by simp, List.nodup_nil, by simp⟩

/-- Only threads of characters are completed. -/
theorem character_of_completed (h : Threads completed es) {t : Text} (ht : t ∈ completed) :
  ∃ c : Character, t = c.id
  := h.characters _ (Entries.mem_of_get? (h.closed t ht))

/-- A thread that has not closed is not completed. -/
theorem notMem_completed (h : Threads completed es) (hc : Entries.get? es c.id ≠ some .close) :
  c.id ∉ completed
  := fun hm => hc (h.closed _ hm)

/-- A thread stands nowhere, at the second or at the closing stage. -/
theorem get?_cases (h : Threads completed es) (c : Character) :
  Entries.get? es c.id = none ∨ Entries.get? es c.id = some .second
    ∨ Entries.get? es c.id = some .close
  := by
  cases hs : Entries.get? es c.id with
  | none => exact Or.inl rfl
  | some s =>
      obtain rfl | rfl := h.stages _ (Entries.mem_of_get? hs)
      · exact Or.inr (Or.inl rfl)
      · exact Or.inr (Or.inr rfl)

/-- A thread that is not completed may be raised to the second or to the closing stage. -/
theorem put (h : Threads completed es) (hc : c.id ∉ completed) {s : Stage}
    (hs : s = .second ∨ s = .close) :
  Threads completed (Entries.put c.id s es)
  where
  nodup := Entries.nodup_put h.nodup _ _
  characters e he := by
    obtain rfl | he := Entries.mem_put he
    · exact ⟨c, rfl⟩
    · apply h.characters e he
  stages e he := by
    obtain rfl | he := Entries.mem_put he
    · apply hs
    · apply h.stages e he
  completedNodup := h.completedNodup
  closed t ht := by
    have hne : c.id ≠ t := by
      rintro rfl
      apply hc ht
    rw [Entries.get?_put, if_neg hne]
    apply h.closed t ht

/-- A thread that has closed may be completed. -/
theorem complete (h : Threads completed es) (hc : Entries.get? es c.id = some .close) :
  Threads (Route.addOnce completed c.id) es
  := by
  unfold Route.addOnce
  by_cases hm : c.id ∈ completed
  · rw [if_pos (by simpa using hm)]
    apply h
  · rw [if_neg (by simpa using hm)]
    refine ⟨h.nodup, h.characters, h.stages, ?_, ?_⟩
    · apply List.nodup_append.mpr ⟨h.completedNodup, List.nodup_singleton _, _⟩
      rintro t ht _ hs rfl
      rw [List.mem_singleton] at hs
      apply hm (hs ▸ ht)
    · intro t ht
      rw [List.mem_append, List.mem_singleton] at ht
      obtain ht | rfl := ht
      · apply h.closed t ht
      · apply hc

end Threads

/-! ### Routes -/

theorem Stage.ofLabel?_label (s : Stage) :
  Stage.ofLabel? s.label = some s
  := by
  cases s <;> rfl

/-- Stages are read back from their labels. -/
theorem Progress.stages_ofStages {κ : Type} (es : List (κ × Stage)) :
  (Progress.ofStages es).stages = es
  := by
  induction es with
  | nil => rfl
  | cons e es ih =>
      have hcons : (Progress.ofStages (e :: es)).stages
          = ((Stage.ofLabel? e.2.label).map fun s => (e.1, s)).toList
            ++ (Progress.ofStages es).stages := by
        rw [Stage.ofLabel?_label]
        simp [stages, ofStages, Entries.mapValues, Stage.ofLabel?_label]
      rw [hcons, ih, Stage.ofLabel?_label]
      rfl

/-- A label is looked up where its stage is. -/
theorem Progress.get?_ofStages {κ : Type} [DecidableEq κ] (es : List (κ × Stage)) (t : κ) :
  Entries.get? (ofStages es) t = (Entries.get? es t).map Stage.label
  := Entries.get?_mapValues Stage.label es t

theorem Progress.keys_ofStages {κ : Type} (es : List (κ × Stage)) :
  (ofStages es).map (·.1) = es.map (·.1)
  := Entries.keys_mapValues Stage.label es

namespace Route

section

variable {κ : Type} [ThreadName κ] [DecidableEq κ] {es : List (κ × Stage)} {c : Character}

/-- A character has the stage that was put. -/
theorem stageOf_put (s : Stage) (es : List (κ × Stage)) (c : Character) :
  stageOf (Entries.put c.thread s es) c = s
  := by
  simp [stageOf, Entries.get?_put]

/-- A character advances to a higher stage. -/
theorem advance_of_lt {s : Stage} (h : (stageOf es c).rank < s.rank) :
  advance es c s = Entries.put c.thread s es
  := if_pos h

end

variable {completed : List Text} {es : Entries Stage} {c : Character}

/-- Names that are all different are added one by one. -/
theorem foldl_addOnce {α : Type} [BEq α] [LawfulBEq α] {acc names : List α}
    (h : (acc ++ names).Nodup) :
  names.foldl addOnce acc = acc ++ names
  := by
  induction names generalizing acc with
  | nil => simp
  | cons name names ih =>
      have hname : name ∉ acc := by
        intro hm
        apply List.disjoint_of_nodup_append h hm List.mem_cons_self
      have hstep : addOnce acc name = acc ++ [name] := by
        simp [addOnce, hname]
      rw [List.foldl_cons, hstep, ih (by simpa using h)]
      simp

/-- Names that differ are each taken once. -/
theorem distinct_of_nodup {α : Type} [BEq α] [LawfulBEq α] {names : List α} (h : names.Nodup) :
  distinct names = names
  := foldl_addOnce (by simpa using h)

/-- An answer to an opening raises a thread that stands nowhere. -/
theorem advance_second (h : Entries.get? es c.id = none) :
  advance es c .second = Entries.put c.id .second es
  := by
  apply advance_of_lt
  rw [stageOf, Character.thread_text, h]
  decide

/-- An answer to a reply closes a thread. -/
theorem advance_close (h : Entries.get? es c.id = some .second) :
  advance es c .close = Entries.put c.id .close es
  := by
  apply advance_of_lt
  rw [stageOf, Character.thread_text, h]
  decide

/-- The route of a choice that fits leaves the threads in order. -/
theorem ofKind_threads (h : Threads completed es) {k : ChoiceKind} (hk : k.Fits completed es) :
  Threads (ofKind completed es k).completed (ofKind completed es k).progress
  := by
  cases k with
  | talk c => exact h
  | stageOne c =>
      have hc : Entries.get? es c.id = none := hk
      have hnot := h.notMem_completed (c := c) (by simp [hc])
      rw [ofKind, advance_second hc]
      apply h.put hnot (Or.inl rfl)
  | stageTwo c =>
      have hc : Entries.get? es c.id = some .second := hk
      have hnot := h.notMem_completed (c := c) (by simp [hc])
      rw [ofKind, advance_close hc]
      apply h.put hnot (Or.inr rfl)
  | returnToHub c => apply h.complete hk
  | chooseOther => exact h
  | endStory => exact h
  | unrecognized => exact h

end Route

end BranchingStory
