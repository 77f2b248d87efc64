import BranchingStory.Narrative.Session
import BranchingStory.Proofs.Narrative.ChoiceKind
import BranchingStory.Proofs.Narrative.Threads
import Mathlib.Data.List.Perm.Basic
import Mathlib.Order.Basic
import Mathlib.Order.Defs.LinearOrder
import Mathlib.Order.MinMax

/-!
# Threads rise

Stages are compared by their rank.  A choice raises at most one thread to a stage and completes
at most one, so behind several choices every thread stands at the highest of the stages that it
had and that it was raised to.  The order in which the choices are taken does not matter:
`StrSnapshot.behind_perm`, where threads, labels and choices are any strings, and
`Snapshot.afterAll_perm`, where they are texts.
-/

namespace BranchingStory

/-! ### Stages -/

namespace Stage

/-- Different stages have different ranks. -/
theorem rank_injective :
  Function.Injective rank
  := by
  intro s s' h
  cases s <;> cases s' <;> first | rfl | cases h

instance : LinearOrder Stage :=
  LinearOrder.lift' rank rank_injective

/-- Stages are ordered by their ranks. -/
theorem lt_iff_rank {s s' : Stage} :
  s < s' ↔ s.rank < s'.rank
  := Iff.rfl

theorem unset_le (s : Stage) :
  unset ≤ s
  := Nat.zero_le s.rank

/-- The highest of some stages, or none of them when there are none. -/
theorem max?_eq_of_mem_iff {l l' : List Stage} (h : ∀ s, s ∈ l ↔ s ∈ l') :
  l.max? = l'.max?
  := by
  apply Option.ext
  intro s
  rw [List.max?_eq_some_iff, List.max?_eq_some_iff]
  simp [h]

/-- Stages may be compared by parts. -/
theorem max?_append (l l' : List Stage) :
  (l ++ l').max? = (l.max?.toList ++ l').max?
  := by
  cases l with
  | nil => rfl
  | cons s l =>
      rw [List.max?_cons', Option.toList_some, List.cons_append, List.max?_cons',
        List.foldl_append, List.singleton_append, List.max?_cons']

/-- The higher of two stages is the lowest of all or one of some stages if both are. -/
theorem max_mem {l : List Stage} {s s' : Stage} (h : s = unset ∨ s ∈ l)
    (h' : s' = unset ∨ s' ∈ l) :
  max s s' = unset ∨ max s s' ∈ l
  := by
  obtain hmax | hmax := max_choice s s'
  · rwa [hmax]
  · rwa [hmax]

/-- A stage that is not below any of some stages, and is one of them unless it is the lowest of
all, is the highest of them. -/
theorem getD_max?_eq {l : List Stage} {s : Stage} (hle : ∀ s' ∈ l, s' ≤ s)
    (hmem : s = unset ∨ s ∈ l) :
  l.max?.getD unset = s
  := by
  cases hm : l.max? with
  | none =>
      rw [List.max?_eq_none_iff] at hm
      subst hm
      obtain rfl | h := hmem
      · rfl
      · cases h
  | some m =>
      obtain ⟨hl, hmax⟩ := List.max?_eq_some_iff.mp hm
      rw [Option.getD_some]
      apply le_antisymm (hle m hl)
      obtain rfl | h := hmem
      · apply unset_le
      · apply hmax s h

/-- A stage is not above the highest of some stages that it is among. -/
theorem le_getD_max? (s : Option Stage) (l : List Stage) :
  s.getD unset ≤ ((s.toList ++ l).max?).getD unset
  := by
  cases s with
  | none => apply unset_le
  | some s =>
      rw [Option.toList_some, Option.getD_some]
      cases hm : ([s] ++ l).max? with
      | none =>
          rw [List.max?_eq_none_iff] at hm
          cases hm
      | some m => exact (List.max?_eq_some_iff.mp hm).2 s List.mem_cons_self

end Stage

/-! ### One route -/

/-- Different characters have different ids. -/
theorem Character.id_inj {c d : Character} :
  c.id = d.id ↔ c = d
  := by
  cases c <;> cases d <;> decide

/-- Different characters have different threads. -/
theorem Character.thread_inj {κ : Type} [ThreadName κ] {c d : Character} :
  (c.thread : κ) = d.thread ↔ c = d
  := by
  constructor
  · exact fun h => Character.id_inj.mp (ThreadName.ofText_inj h)
  · rintro rfl
    rfl

namespace ChoiceKind

section

variable {κ : Type} [ThreadName κ] [DecidableEq κ]

/-- The stage to which a choice of a kind raises the thread of a name, if it does. -/
def raises (t : κ) : ChoiceKind → Option Stage
  | stageOne c => if c.thread = t then some .second else none
  | stageTwo c => if c.thread = t then some .close else none
  | _ => none

/-- Answers raise the thread of a character, those to the opening to the second stage and those to
the reply to the closing one. -/
theorem raises_thread_eq_some_iff {k : ChoiceKind} {c : Character} {s : Stage} :
  k.raises (c.thread : κ) = some s ↔ s = .second ∧ k = stageOne c ∨ s = .close ∧ k = stageTwo c
  := by
  cases k with
  | stageOne d => simp [raises, Character.thread_inj, and_comm, @eq_comm _ _ s]
  | stageTwo d => simp [raises, Character.thread_inj, and_comm, @eq_comm _ _ s]
  | _ => simp [raises]

end

/-- A choice raises the thread of a character to the second stage if it answers the opening, and
to the closing one if it answers the reply. -/
theorem raises_ofStr_eq_some_iff {id : Str} {c : Character} {s : Stage} :
  (ofStr id).raises c.id = some s
    ↔ (s = .second ∧ (c.id ++ ("_l1_" : Text)) <+: id.front)
      ∨ (s = .close ∧ (c.id ++ ("_l2_" : Text)) <+: id.front)
  := by
  rw [← ofStr_eq_stageOne_iff, ← ofStr_eq_stageTwo_iff, ← Character.thread_text]
  exact raises_thread_eq_some_iff

end ChoiceKind

namespace Route

variable {κ : Type} [ThreadName κ] [DecidableEq κ]

/-- A thread that is raised stands at the higher of its stage and the new one. -/
theorem get?_advance (es : List (κ × Stage)) (c : Character) {s : Stage} (hs : s ≠ .unset)
    (t : κ) :
  Entries.get? (advance es c s) t
    = ((Entries.get? es t).toList ++ (if c.thread = t then some s else none).toList).max?
  := by
  unfold advance
  by_cases ht : c.thread = t
  · subst ht
    rw [if_pos rfl]
    cases hget : Entries.get? es c.thread with
    | none =>
        have hlt : (stageOf es c).rank < s.rank := by
          rw [stageOf, hget]
          apply lt_of_le_of_ne (Nat.zero_le _)
          intro he
          exact hs (Stage.rank_injective he.symm)
        rw [if_pos hlt, Entries.get?_put, if_pos rfl]
        rfl
    | some s' =>
        have hstage : stageOf es c = s' := by
          rw [stageOf, hget]
          rfl
        have hmax : ([s'] ++ [s]).max? = some (max s' s) := rfl
        rw [Option.toList_some, Option.toList_some, hmax, hstage]
        split_ifs with hlt
        · rw [Entries.get?_put, if_pos rfl, max_eq_right (le_of_lt (Stage.lt_iff_rank.mpr hlt))]
        · rw [hget, max_eq_left (not_lt.mp fun h => hlt (Stage.lt_iff_rank.mp h))]
  · rw [if_neg ht]
    have hsame :
        Entries.get? (if (stageOf es c).rank < s.rank then Entries.put c.thread s es else es) t
          = Entries.get? es t := by
      split_ifs
      · rw [Entries.get?_put, if_neg ht]
      · rfl
    rw [hsame]
    cases Entries.get? es t <;> rfl

/-- A route raises a thread to the stage that its choice raises it to. -/
theorem get?_ofKind [BEq κ] (completed : List κ) (es : List (κ × Stage)) (k : ChoiceKind) (t : κ) :
  Entries.get? (ofKind completed es k).progress t
    = ((Entries.get? es t).toList ++ (k.raises t).toList).max?
  := by
  have hsame : Entries.get? es t = ((Entries.get? es t).toList ++ []).max? := by
    cases Entries.get? es t <;> rfl
  cases k with
  | stageOne c => apply get?_advance es c (by simp)
  | stageTwo c => apply get?_advance es c (by simp)
  | _ => exact hsame

/-- A route keeps one stage for every thread. -/
theorem nodup_ofKind [BEq κ] {es : List (κ × Stage)} (h : (es.map (·.1)).Nodup) (completed : List κ) (k : ChoiceKind) :
  ((ofKind completed es k).progress.map (·.1)).Nodup
  := by
  have hadvance (c : Character) (s : Stage) : ((advance es c s).map (·.1)).Nodup := by
    unfold advance
    split_ifs
    · apply Entries.nodup_put h
    · exact h
  cases k with
  | stageOne c => apply hadvance
  | stageTwo c => apply hadvance
  | _ => exact h

/-- The names behind an addition are those before and the new one. -/
theorem mem_addOnce {α : Type} [BEq α] [LawfulBEq α] {names : List α} {name t : α} :
  t ∈ addOnce names name ↔ t ∈ names ∨ t = name
  := by
  unfold addOnce
  split_ifs with h
  · have hname : name ∈ names := by simpa using h
    constructor
    · exact Or.inl
    · rintro (ht | rfl)
      · exact ht
      · exact hname
  · simp

/-- The names that are listed once are those that are listed. -/
theorem mem_distinct {α : Type} [BEq α] [LawfulBEq α] {names : List α} {t : α} :
  t ∈ distinct names ↔ t ∈ names
  := by
  have hfold (acc : List α) : t ∈ names.foldl addOnce acc ↔ t ∈ acc ∨ t ∈ names := by
    induction names generalizing acc with
    | nil => simp
    | cons name names ih => rw [List.foldl_cons, ih, mem_addOnce, List.mem_cons, or_assoc]
  rw [distinct, hfold]
  simp

/-- A route completes the thread to whose closing its choice answers. -/
theorem mem_ofKind_completed [BEq κ] [LawfulBEq κ] (completed : List κ) (es : List (κ × Stage))
    (k : ChoiceKind) (t : κ) :
  t ∈ (ofKind completed es k).completed
    ↔ t ∈ completed ∨ ∃ c : Character, k = .returnToHub c ∧ t = c.thread
  := by
  cases k with
  | returnToHub c =>
      have hcompleted :
          (ofKind completed es (.returnToHub c)).completed = addOnce completed c.thread := rfl
      rw [hcompleted, mem_addOnce]
      simp
  | _ => simp [ofKind]

end Route

/-! ### Labels -/

namespace Progress

/-- The stage that the label of a thread names, if it has one that names a stage. -/
def stage? {κ : Type} [DecidableEq κ] (p : Progress κ) (t : κ) : Option Stage :=
  (Entries.get? p t).bind Stage.ofLabel?

/-- The label of a stage names the stage. -/
theorem stage?_ofStages {κ : Type} [DecidableEq κ] (es : List (κ × Stage)) (t : κ) :
  (ofStages es).stage? t = Entries.get? es t
  := by
  rw [stage?, get?_ofStages]
  cases Entries.get? es t with
  | none => rfl
  | some s => exact Stage.ofLabel?_label s

/-- A label that names no stage is passed over. -/
theorem stages_cons_none {κ : Type} {e : κ × Text} (h : Stage.ofLabel? e.2 = none)
    (p : Progress κ) :
  stages (e :: p) = stages p
  := by
  simp [stages, h]

theorem stages_cons_some {κ : Type} {e : κ × Text} {s : Stage} (h : Stage.ofLabel? e.2 = some s)
    (p : Progress κ) :
  stages (e :: p) = (e.1, s) :: stages p
  := by
  simp [stages, h]

/-- Threads that stand once each have one stage each. -/
theorem nodup_stages {κ : Type} {p : Progress κ} (h : (p.map (·.1)).Nodup) :
  (p.stages.map (·.1)).Nodup
  := h.sublist (Entries.keys_filterMap_sublist Stage.ofLabel? p)

/-- The entries whose labels name stages are looked up as their labels say. -/
theorem get?_stages {κ : Type} [DecidableEq κ] {p : Progress κ} (h : (p.map (·.1)).Nodup) (t : κ) :
  Entries.get? p.stages t = p.stage? t
  := by
  induction p with
  | nil => rfl
  | cons e p ih =>
      obtain ⟨hnot, hp⟩ := List.nodup_cons.mp h
      have ih := ih hp
      rw [stage?, Entries.get?_cons]
      cases hs : Stage.ofLabel? e.2 with
      | none =>
          rw [stages_cons_none hs, ih]
          split_ifs with hk
          · have habsent : Entries.get? p t = none := Entries.get?_of_notMem (hk ▸ hnot)
            rw [stage?, habsent, Option.bind_some, hs]
            rfl
          · rfl
      | some s =>
          rw [stages_cons_some hs, Entries.get?_cons, ih]
          split_ifs
          · rw [Option.bind_some, hs]
          · rfl

/-- The labels of stages are told in strings as in texts. -/
theorem ofStrs_labels {κ : Type} (es : List (κ × Stage)) :
  ofStrs (Entries.mapValues (fun s => .text s.label) es) = ofStages es
  := by
  rw [ofStrs, ofStages, Entries.mapValues, List.filterMap_map]
  exact congrFun List.filterMap_eq_map es

end Progress

/-! ### Many choices -/

namespace Snapshot

section

variable {κ : Type} [ThreadName κ] [DecidableEq κ] [BEq κ] {k : Snapshot κ}

/-- The state of the threads behind a choice of a kind. -/
def afterKind (k : Snapshot κ) (kind : ChoiceKind) : Snapshot κ :=
  let route := Route.ofKind (Route.distinct k.completed) k.progress.stages kind
  ⟨route.completed, .ofStages route.progress⟩

/-- The state of the threads behind choices of kinds, one after another. -/
def afterKinds (k : Snapshot κ) (kinds : List ChoiceKind) : Snapshot κ :=
  kinds.foldl afterKind k

/-- The first choice is taken, and the others behind it. -/
theorem afterKinds_cons (k : Snapshot κ) (kind : ChoiceKind) (kinds : List ChoiceKind) :
  k.afterKinds (kind :: kinds) = (k.afterKind kind).afterKinds kinds
  := rfl

/-- Behind at least one choice every label names a stage. -/
theorem exists_afterKinds_progress (k : Snapshot κ) {kinds : List ChoiceKind} (h : kinds ≠ []) :
  ∃ es, (k.afterKinds kinds).progress = .ofStages es
  := by
  induction kinds generalizing k with
  | nil => contradiction
  | cons kind kinds ih =>
      rw [afterKinds_cons]
      by_cases hkinds : kinds = []
      · subst hkinds
        exact ⟨_, rfl⟩
      · apply ih _ hkinds

/-- Behind a choice every thread stands once. -/
theorem nodup_afterKind (hk : (k.progress.map (·.1)).Nodup) (kind : ChoiceKind) :
  ((k.afterKind kind).progress.map (·.1)).Nodup
  := by
  rw [afterKind, Progress.keys_ofStages]
  apply Route.nodup_ofKind (Progress.nodup_stages hk)

/-- Behind a choice a thread stands at the higher of its stage and the one that the choice
raises it to. -/
theorem stage?_afterKind (hk : (k.progress.map (·.1)).Nodup) (kind : ChoiceKind) (t : κ) :
  (k.afterKind kind).progress.stage? t
    = ((k.progress.stage? t).toList ++ (kind.raises t).toList).max?
  := by
  rw [afterKind, Progress.stage?_ofStages, Route.get?_ofKind, Progress.get?_stages hk]

/-- Behind choices a thread stands at the highest of its stage and those that the choices raise
it to. -/
theorem stage?_afterKinds (hk : (k.progress.map (·.1)).Nodup) (kinds : List ChoiceKind) (t : κ) :
  (k.afterKinds kinds).progress.stage? t
    = ((k.progress.stage? t).toList ++ kinds.filterMap (·.raises t)).max?
  := by
  induction kinds generalizing k with
  | nil =>
      rw [List.filterMap_nil, List.append_nil]
      cases h : k.progress.stage? t <;> exact h
  | cons kind kinds ih =>
      have hcons : (kind :: kinds).filterMap (·.raises t)
          = (kind.raises t).toList ++ kinds.filterMap (·.raises t) := by
        rw [List.filterMap_cons]
        cases kind.raises t <;> rfl
      rw [afterKinds_cons, ih (nodup_afterKind hk kind), stage?_afterKind hk, hcons,
        ← List.append_assoc, ← Stage.max?_append]

/-- The thread of a character stands behind choices at the highest of the stage that it had, the
second stage if its opening was answered and the closing one if its reply was. -/
theorem label_afterKinds_progress (hk : (k.progress.map (·.1)).Nodup)
    {kinds : List ChoiceKind} (hkinds : kinds ≠ []) (c : Character) :
  (Entries.get? (k.afterKinds kinds).progress c.thread).getD Stage.unset.label
    = (max ((k.progress.stage? c.thread).getD .unset)
        (max (if .stageOne c ∈ kinds then .second else .unset)
          (if .stageTwo c ∈ kinds then .close else .unset))).label
  := by
  obtain ⟨es, hes⟩ := exists_afterKinds_progress k hkinds
  have hstage := stage?_afterKinds hk kinds c.thread
  rw [hes, Progress.stage?_ofStages] at hstage
  have hlabel : (Entries.get? (k.afterKinds kinds).progress c.thread).getD Stage.unset.label
      = ((Entries.get? es c.thread).getD .unset).label := by
    rw [hes, Progress.get?_ofStages]
    cases Entries.get? es c.thread <;> rfl
  have hraises {s : Stage} : s ∈ kinds.filterMap (·.raises (c.thread : κ))
      ↔ s = .second ∧ .stageOne c ∈ kinds ∨ s = .close ∧ .stageTwo c ∈ kinds := by
    simp only [List.mem_filterMap, ChoiceKind.raises_thread_eq_some_iff]
    constructor
    · rintro ⟨kind, hkind, ⟨hs, rfl⟩ | ⟨hs, rfl⟩⟩
      · exact Or.inl ⟨hs, hkind⟩
      · exact Or.inr ⟨hs, hkind⟩
    · rintro (⟨hs, hkind⟩ | ⟨hs, hkind⟩)
      · exact ⟨_, hkind, Or.inl ⟨hs, rfl⟩⟩
      · exact ⟨_, hkind, Or.inr ⟨hs, rfl⟩⟩
  rw [hlabel, hstage]
  congr 1
  apply Stage.getD_max?_eq
  · intro s hs
    rw [List.mem_append, hraises] at hs
    obtain hs | ⟨rfl, hone⟩ | ⟨rfl, htwo⟩ := hs
    · rw [Option.mem_toList.mp hs]
      apply le_max_left
    · rw [if_pos hone]
      apply le_max_of_le_right (le_max_left _ _)
    · rw [if_pos htwo]
      apply le_max_of_le_right (le_max_right _ _)
  · -- Each of the three is the lowest stage or one of those that are compared.
    apply Stage.max_mem _ (Stage.max_mem _ _)
    · cases k.progress.stage? c.thread with
      | none => exact Or.inl rfl
      | some s => exact Or.inr (by simp)
    · split_ifs with hone
      · exact Or.inr (List.mem_append_right _ (hraises.mpr (Or.inl ⟨rfl, hone⟩)))
      · exact Or.inl rfl
    · split_ifs with htwo
      · exact Or.inr (List.mem_append_right _ (hraises.mpr (Or.inr ⟨rfl, htwo⟩)))
      · exact Or.inl rfl

/-- Behind the same choices in another order every thread has the same label. -/
theorem get?_afterKinds_of_perm (hk : (k.progress.map (·.1)).Nodup) {kinds kinds' : List ChoiceKind}
    (h : kinds.Perm kinds') (t : κ) :
  Entries.get? (k.afterKinds kinds).progress t = Entries.get? (k.afterKinds kinds').progress t
  := by
  by_cases hkinds : kinds = []
  · subst hkinds
    rw [List.nil_perm.mp h]
  · have hkinds' : kinds' ≠ [] := by
      rintro rfl
      exact hkinds (List.perm_nil.mp h)
    obtain ⟨es, hes⟩ := exists_afterKinds_progress k hkinds
    obtain ⟨es', hes'⟩ := exists_afterKinds_progress k hkinds'
    have hsame : Entries.get? es t = Entries.get? es' t := by
      rw [← Progress.stage?_ofStages, ← Progress.stage?_ofStages, ← hes, ← hes',
        stage?_afterKinds hk, stage?_afterKinds hk]
      apply Stage.max?_eq_of_mem_iff
      intro s
      rw [List.mem_append, List.mem_append, (h.filterMap _).mem_iff]
    rw [hes, hes', Progress.get?_ofStages, Progress.get?_ofStages, hsame]

variable [LawfulBEq κ]

/-- Behind choices the threads are completed that were, and those that the choices complete. -/
theorem mem_afterKinds_completed (k : Snapshot κ) (kinds : List ChoiceKind) (t : κ) :
  t ∈ (k.afterKinds kinds).completed
    ↔ t ∈ k.completed ∨ ∃ c : Character, .returnToHub c ∈ kinds ∧ t = c.thread
  := by
  induction kinds generalizing k with
  | nil => simp [afterKinds]
  | cons kind kinds ih =>
      have hkind : t ∈ (k.afterKind kind).completed
          ↔ t ∈ k.completed ∨ ∃ c : Character, .returnToHub c = kind ∧ t = c.thread := by
        simp only [afterKind, Route.mem_ofKind_completed, Route.mem_distinct, @eq_comm _ kind]
      simp only [afterKinds_cons, ih, hkind, List.mem_cons, or_and_right, exists_or, or_assoc]

/-- The thread of a character is completed behind choices if it was or if its closing was
answered. -/
theorem thread_mem_afterKinds_completed (k : Snapshot κ) (kinds : List ChoiceKind) (c : Character) :
  c.thread ∈ (k.afterKinds kinds).completed
    ↔ c.thread ∈ k.completed ∨ .returnToHub c ∈ kinds
  := by
  rw [mem_afterKinds_completed]
  simp only [Character.thread_inj, exists_eq_right']

end

/-- The state of the threads behind a choice. -/
def after (k : Snapshot) (id : Text) : Snapshot :=
  let route := Route.resolve id k.completed k.progress
  ⟨route.completed, .ofStages route.progress⟩

/-- The state of the threads behind choices, one after another. -/
def afterAll (k : Snapshot) (ids : List Text) : Snapshot :=
  ids.foldl after k

/-- Choices are taken by their kinds. -/
theorem afterAll_eq (k : Snapshot) (ids : List Text) :
  k.afterAll ids = k.afterKinds (ids.map .ofId)
  := by
  rw [afterKinds, List.foldl_map]
  rfl

/-- Whatever the threads and the choices, the state behind the choices does not depend on their
order: the same threads are completed and every thread has the same label.  Behind at least one
choice the thread of a character stands at the highest of the stage that it had, the second
stage if its opening was answered and the closing one if its reply was, and it is completed if
it was or if its closing was answered. -/
theorem afterAll_perm {k : Snapshot} (hk : (k.progress.map (·.1)).Nodup) {ids ids' : List Text}
    (h : ids.Perm ids') :
  (∀ t, t ∈ (k.afterAll ids).completed ↔ t ∈ (k.afterAll ids').completed)
    ∧ (∀ t, Entries.get? (k.afterAll ids).progress t = Entries.get? (k.afterAll ids').progress t)
    ∧ (ids ≠ [] → ∀ c : Character,
      (c.id ∈ (k.afterAll ids).completed
        ↔ c.id ∈ k.completed ∨ ("hub_return_after_" : Text) ++ c.id ∈ ids)
      ∧ (Entries.get? (k.afterAll ids).progress c.id).getD Stage.unset.label
        = (max ((k.progress.stage? c.id).getD .unset)
            (max (if ∃ id ∈ ids, (c.id ++ ("_l1_" : Text)) <+: id then .second else .unset)
              (if ∃ id ∈ ids, (c.id ++ ("_l2_" : Text)) <+: id then .close else .unset))).label)
  := by
  have hkinds := h.map ChoiceKind.ofId
  simp only [afterAll_eq]
  refine ⟨fun t => ?_, get?_afterKinds_of_perm hk hkinds, fun hids c => ?_⟩
  · simp only [mem_afterKinds_completed, hkinds.mem_iff]
  · have hcompleted := thread_mem_afterKinds_completed k (ids.map .ofId) c
    have hne : ids.map ChoiceKind.ofId ≠ [] := mt List.map_eq_nil_iff.mp hids
    have hlabel := label_afterKinds_progress hk hne c
    simp only [List.mem_map, ChoiceKind.ofId_eq_returnToHub_iff, ChoiceKind.ofId_eq_stageOne_iff,
      ChoiceKind.ofId_eq_stageTwo_iff, exists_eq_right, Character.thread_text] at hcompleted hlabel
    exact ⟨hcompleted, hlabel⟩

end Snapshot

/-! ### Threads in strings -/

/-- The state of the threads in strings, which may be no texts. -/
structure StrSnapshot where
  completed : List Str
  progress : List (Str × Str)

namespace StrSnapshot

variable {k : StrSnapshot} {id : Str} {ids ids' : List Str}

/-- The state of the threads behind a choice. -/
def after (k : StrSnapshot) (id : Str) : StrSnapshot :=
  let route := Route.resolveStr id k.completed k.progress
  ⟨route.completed, Entries.mapValues (fun s => .text s.label) route.progress⟩

/-- The state of the threads behind choices, one after another. -/
def behind (k : StrSnapshot) (ids : List Str) : StrSnapshot :=
  ids.foldl after k

/-- The state of the threads with the labels that are texts; no others name stages. -/
def labelled (k : StrSnapshot) : Snapshot Str :=
  ⟨k.completed, .ofStrs k.progress⟩

/-- Choices are taken by their kinds. -/
theorem labelled_behind (k : StrSnapshot) (ids : List Str) :
  (k.behind ids).labelled = k.labelled.afterKinds (ids.map .ofStr)
  := by
  induction ids generalizing k with
  | nil => rfl
  | cons id ids ih =>
      have hafter : (k.after id).labelled = k.labelled.afterKind (.ofStr id) :=
        congrArg (Snapshot.mk _) (Progress.ofStrs_labels _)
      have hbehind : k.behind (id :: ids) = (k.after id).behind ids := rfl
      rw [hbehind, ih, hafter]
      rfl

/-- Behind at least one choice every label is that of a stage. -/
theorem exists_behind_progress (k : StrSnapshot) (h : ids ≠ []) :
  ∃ es, (k.behind ids).progress = Entries.mapValues (fun s => .text (Stage.label s)) es
  := by
  induction ids generalizing k with
  | nil => contradiction
  | cons id ids ih =>
      by_cases hids : ids = []
      · subst hids
        exact ⟨_, rfl⟩
      · exact ih (k.after id) hids

/-- Behind at least one choice every thread has the label that it has in a text. -/
theorem get?_behind_progress (k : StrSnapshot) (h : ids ≠ []) (t : Str) :
  Entries.get? (k.behind ids).progress t
    = (Entries.get? (k.labelled.afterKinds (ids.map .ofStr)).progress t).map .text
  := by
  obtain ⟨es, hes⟩ := exists_behind_progress k h
  rw [← labelled_behind, labelled, hes, Progress.ofStrs_labels, Progress.get?_ofStages,
    Entries.get?_mapValues, Option.map_map]
  rfl

/-- Whatever the threads and the choices, the state behind the choices does not depend on their
order: the same threads are completed and every thread has the same label.  Behind at least one
choice the thread of a character stands at the highest of the stage that it had, the second
stage if its opening was answered and the closing one if its reply was, and it is completed if
it was or if its closing was answered. -/
theorem behind_perm (hk : (k.progress.map (·.1)).Nodup) (h : ids.Perm ids') :
  (∀ t, t ∈ (k.behind ids).completed ↔ t ∈ (k.behind ids').completed)
    ∧ (∀ t, Entries.get? (k.behind ids).progress t = Entries.get? (k.behind ids').progress t)
    ∧ (ids ≠ [] → ∀ c : Character,
      (c.thread ∈ (k.behind ids).completed
        ↔ c.thread ∈ k.completed ∨ .text (("hub_return_after_" : Text) ++ c.id) ∈ ids)
      ∧ (Entries.get? (k.behind ids).progress c.thread).getD (.text Stage.unset.label)
        = .text (max (((Progress.ofStrs k.progress).stage? c.thread).getD .unset)
            (max (if ∃ id ∈ ids, (c.id ++ ("_l1_" : Text)) <+: id.front then .second else .unset)
              (if ∃ id ∈ ids, (c.id ++ ("_l2_" : Text)) <+: id.front
                then .close else .unset))).label)
  := by
  have hkinds := h.map ChoiceKind.ofStr
  have hlabelled : (k.labelled.progress.map (·.1)).Nodup :=
    hk.sublist (Entries.keys_filterMap_sublist Str.text? k.progress)
  have hcompleted (ids : List Str) (t : Str) : t ∈ (k.behind ids).completed
      ↔ t ∈ (k.labelled.afterKinds (ids.map .ofStr)).completed := by
    rw [← labelled_behind]
    rfl
  refine ⟨fun t => ?_, fun t => ?_, fun hids c => ⟨?_, ?_⟩⟩
  · simp only [hcompleted, Snapshot.mem_afterKinds_completed, hkinds.mem_iff]
  · by_cases hids : ids = []
    · subst hids
      rw [List.nil_perm.mp h]
    · have hids' : ids' ≠ [] := by
        rintro rfl
        exact hids (List.perm_nil.mp h)
      rw [get?_behind_progress k hids, get?_behind_progress k hids',
        Snapshot.get?_afterKinds_of_perm hlabelled hkinds]
  · rw [hcompleted, Snapshot.thread_mem_afterKinds_completed]
    simp only [List.mem_map, ChoiceKind.ofStr_eq_returnToHub_iff, exists_eq_right]
    rfl
  · have hne : ids.map ChoiceKind.ofStr ≠ [] := mt List.map_eq_nil_iff.mp hids
    have hlabel := Snapshot.label_afterKinds_progress hlabelled hne c
    simp only [List.mem_map, ChoiceKind.ofStr_eq_stageOne_iff,
      ChoiceKind.ofStr_eq_stageTwo_iff] at hlabel
    rw [get?_behind_progress k hids, Option.getD_map, hlabel]
    rfl

/-- Threads with a label that names no stage, with one whose name is no text and with one that is
not a character's. -/
def threadsOfKinds : StrSnapshot :=
  ⟨[.half "zhongli" ⟨0xD800, by decide⟩ "", "tartaglia"],
    [("venti", "L3"), (.half "" ⟨0xDC00, by decide⟩ "", "L1"), ("paimon", "L1"),
      ("lumine", "UNSET")]⟩

/-- A reply is answered before its opening, and choices are taken that are unknown or no texts. -/
theorem behind_perm_reply_first :
  let ids : List Str := ["venti_l2_parse", "hub_return_after_venti", "venti_l1_decode",
    .half "lumine_l1_" ⟨0xDFFF, by decide⟩ "wait"]
  let ids' : List Str := [.half "lumine_l1_" ⟨0xDFFF, by decide⟩ "wait", "venti_l1_decode",
    "venti_l2_parse", "hub_return_after_venti"]
  (threadsOfKinds.progress.map (·.1)).Nodup ∧ ids.Perm ids'
    ∧ (∀ t, Entries.get? (threadsOfKinds.behind ids).progress t
      = Entries.get? (threadsOfKinds.behind ids').progress t)
    ∧ (threadsOfKinds.behind ids).progress.map (·.2) = ["L1", "L1", "L2", "CLOSE"]
  := by
  intro ids ids'
  have hk : (threadsOfKinds.progress.map (·.1)).Nodup := by decide
  have hp : ids.Perm ids' := by decide
  exact ⟨hk, hp, (behind_perm hk hp).2.1, by decide⟩

end StrSnapshot

end BranchingStory
