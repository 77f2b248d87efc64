import BranchingStory.Narrative.ChoiceKind
import Mathlib.Data.List.Infix

/-!
# Kinds and ids

The tables that tell the kind of an id overlap nowhere, so the kind can be read off an entry
of either table.
-/

namespace BranchingStory

namespace ChoiceKind

/-- No id that is known exactly begins like an answer. -/
theorem isPrefixOf_exact :
  ∀ l ∈ leads, ∀ e ∈ exact, l.1.isPrefixOf e.1 = false
  := by decide

/-- Answers of different kinds begin differently. -/
theorem eq_of_isPrefixOf :
  ∀ l ∈ leads, ∀ m ∈ leads, l.1.isPrefixOf m.1 = true → l = m
  := by decide

/-- No id that begins like an answer is known exactly. -/
theorem exact_lookup_eq_none {l : Text × ChoiceKind} (hl : l ∈ leads) {id : Text}
    (h : l.1.isPrefixOf id = true) :
  exact.lookup id = none
  := by
  rw [List.lookup_eq_none_iff]
  intro e he
  have hne : id ≠ e.1 := by
    rintro rfl
    rw [isPrefixOf_exact l hl e he] at h
    cases h
  simpa using hne

/-- What begins like an answer is of its kind. -/
theorem ofLead_of_lead {l : Text × ChoiceKind} (hl : l ∈ leads) {lead : Text}
    (h : l.1.isPrefixOf lead = true) :
  ofLead lead = l.2
  := by
  have hfound : leads.find? (·.1.isPrefixOf lead) = some l := by
    cases hm : leads.find? (·.1.isPrefixOf lead) with
    | none =>
        have hnot := List.find?_eq_none.mp hm l hl
        contradiction
    | some m =>
        have hmem := List.mem_of_find?_eq_some hm
        have hpre := List.find?_some hm
        obtain hlm | hml := List.prefix_or_prefix_of_prefix (List.isPrefixOf_iff_prefix.mp h)
          (List.isPrefixOf_iff_prefix.mp hpre)
        · rw [eq_of_isPrefixOf l hl m hmem (List.isPrefixOf_iff_prefix.mpr hlm)]
        · rw [eq_of_isPrefixOf m hmem l hl (List.isPrefixOf_iff_prefix.mpr hml)]
  rw [ofLead, hfound]

/-- An id is of the kind of the answers that it begins like. -/
theorem ofId_of_lead {l : Text × ChoiceKind} (hl : l ∈ leads) {id : Text}
    (h : l.1.isPrefixOf id = true) :
  ofId id = l.2
  := by
  rw [ofId, exact_lookup_eq_none hl h]
  exact ofLead_of_lead hl h

/-- The answers to an opening and to a reply begin as their character's do. -/
theorem mem_leads (c : Character) :
  (c.id ++ ("_l1_" : Text), stageOne c) ∈ leads ∧ (c.id ++ ("_l2_" : Text), stageTwo c) ∈ leads
  := by
  cases c <;> decide

/-- The id that leads back to the hub is of this kind. -/
theorem ofId_return (c : Character) :
  ofId (("hub_return_after_" : Text) ++ c.id) = returnToHub c
  := by
  cases c <;> decide

/-! ### The ids of a kind -/

/-- What is known by what it begins with begins like an answer of its kind. -/
theorem mem_of_ofLead {lead : Text} {k : ChoiceKind} (h : ofLead lead = k)
    (hk : k ≠ unrecognized) :
  ∃ start, (start, k) ∈ leads ∧ start <+: lead
  := by
  unfold ofLead at h
  split at h
  · next l hfound =>
    have hpre := List.find?_some hfound
    use l.1
    subst h
    exact ⟨List.mem_of_find?_eq_some hfound, List.isPrefixOf_iff_prefix.mp hpre⟩
  · exact absurd h.symm hk

/-- The kind of an id that is known is that of an entry of one of the tables. -/
theorem mem_of_ofId {id : Text} {k : ChoiceKind} (h : ofId id = k) (hk : k ≠ unrecognized) :
  (id, k) ∈ exact ∨ ∃ lead, (lead, k) ∈ leads ∧ lead <+: id
  := by
  unfold ofId at h
  split at h
  · next hfound =>
    obtain ⟨before, after, he, -⟩ := List.lookup_eq_some_iff.mp hfound
    subst h
    left
    rw [he]
    simp
  · exact Or.inr (mem_of_ofLead h hk)

/-- Answers of one kind begin alike, and no id that is known exactly is of their kind. -/
theorem eq_of_kind :
  (∀ l ∈ leads, ∀ m ∈ leads, l.2 = m.2 → l = m) ∧ ∀ l ∈ leads, ∀ e ∈ exact, l.2 ≠ e.2
  := by decide

/-- The ids of the answers of a kind are those that begin like them. -/
theorem ofId_eq_iff_of_lead {l : Text × ChoiceKind} (hl : l ∈ leads) {id : Text} :
  ofId id = l.2 ↔ l.1 <+: id
  := by
  have hknown : ∀ l ∈ leads, l.2 ≠ unrecognized := by decide
  constructor
  · intro h
    obtain he | ⟨lead, hm, hpre⟩ := mem_of_ofId h (hknown l hl)
    · have hne := eq_of_kind.2 l hl _ he
      contradiction
    · rw [eq_of_kind.1 l hl _ hm rfl]
      apply hpre
  · intro h
    apply ofId_of_lead hl (List.isPrefixOf_iff_prefix.mpr h)

/-- The ids of answers to an opening begin alike. -/
theorem ofId_eq_stageOne_iff {id : Text} {c : Character} :
  ofId id = stageOne c ↔ (c.id ++ ("_l1_" : Text)) <+: id
  := ofId_eq_iff_of_lead (mem_leads c).1

/-- The ids of answers to a reply begin alike. -/
theorem ofId_eq_stageTwo_iff {id : Text} {c : Character} :
  ofId id = stageTwo c ↔ (c.id ++ ("_l2_" : Text)) <+: id
  := ofId_eq_iff_of_lead (mem_leads c).2

/-- Ids that are known exactly are of different kinds, each of its own. -/
theorem eq_of_exact :
  (∀ e ∈ exact, ∀ f ∈ exact, e.2 = f.2 → e = f) ∧ ∀ e ∈ exact, ofId e.1 = e.2
  := by decide

/-- A kind whose id is known exactly has no other id. -/
theorem ofId_eq_iff_of_exact {e : Text × ChoiceKind} (he : e ∈ exact) {id : Text} :
  ofId id = e.2 ↔ id = e.1
  := by
  have hknown : ∀ e ∈ exact, e.2 ≠ unrecognized := by decide
  constructor
  · intro h
    obtain hm | ⟨lead, hl, -⟩ := mem_of_ofId h (hknown e he)
    · rw [← eq_of_exact.1 _ hm e he rfl]
    · have hne := eq_of_kind.2 _ hl e he
      contradiction
  · rintro rfl
    apply eq_of_exact.2 e he

/-- One id completes the thread of a character. -/
theorem ofId_eq_returnToHub_iff {id : Text} {c : Character} :
  ofId id = returnToHub c ↔ id = ("hub_return_after_" : Text) ++ c.id
  := by
  have hc : (("hub_return_after_" : Text) ++ c.id, returnToHub c) ∈ exact := by
    cases c <;> decide
  apply ofId_eq_iff_of_exact hc

/-! ### Ids that may be no texts -/

/-- The strings of the answers of a kind are those that begin like them. -/
theorem ofStr_eq_iff_of_lead {l : Text × ChoiceKind} (hl : l ∈ leads) {id : Str} :
  ofStr id = l.2 ↔ l.1 <+: id.front
  := by
  have hknown : ∀ l ∈ leads, l.2 ≠ unrecognized := by decide
  cases id with
  | text t => apply ofId_eq_iff_of_lead hl
  | half lead h rest =>
      constructor
      · intro hk
        obtain ⟨start, hm, hpre⟩ := mem_of_ofLead hk (hknown l hl)
        rw [eq_of_kind.1 l hl _ hm rfl]
        apply hpre
      · intro hpre
        apply ofLead_of_lead hl (List.isPrefixOf_iff_prefix.mpr hpre)

/-- A kind whose id is known exactly has no string but this id. -/
theorem ofStr_eq_iff_of_exact {e : Text × ChoiceKind} (he : e ∈ exact) {id : Str} :
  ofStr id = e.2 ↔ id = .text e.1
  := by
  have hknown : ∀ e ∈ exact, e.2 ≠ unrecognized := by decide
  cases id with
  | text t => rw [Str.text.injEq, ← ofId_eq_iff_of_exact he, ofStr]
  | half lead h rest =>
      simp only [reduceCtorEq, iff_false]
      intro hk
      obtain ⟨start, hl, -⟩ := mem_of_ofLead hk (hknown e he)
      have hne := eq_of_kind.2 _ hl e he
      contradiction

/-- The strings of answers to an opening begin alike. -/
theorem ofStr_eq_stageOne_iff {id : Str} {c : Character} :
  ofStr id = stageOne c ↔ (c.id ++ ("_l1_" : Text)) <+: id.front
  := ofStr_eq_iff_of_lead (mem_leads c).1

/-- The strings of answers to a reply begin alike. -/
theorem ofStr_eq_stageTwo_iff {id : Str} {c : Character} :
  ofStr id = stageTwo c ↔ (c.id ++ ("_l2_" : Text)) <+: id.front
  := ofStr_eq_iff_of_lead (mem_leads c).2

/-- One string completes the thread of a character. -/
theorem ofStr_eq_returnToHub_iff {id : Str} {c : Character} :
  ofStr id = returnToHub c ↔ id = .text (("hub_return_after_" : Text) ++ c.id)
  := by
  have hc : (("hub_return_after_" : Text) ++ c.id, returnToHub c) ∈ exact := by
    cases c <;> decide
  apply ofStr_eq_iff_of_exact hc

/-- One string ends the story. -/
theorem ofStr_eq_endStory_iff {id : Str} :
  ofStr id = endStory ↔ id = .text "end_story"
  := by
  have hend : (endStoryId, endStory) ∈ exact := by decide
  apply ofStr_eq_iff_of_exact hend

end ChoiceKind

end BranchingStory
