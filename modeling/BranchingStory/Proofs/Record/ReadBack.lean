import BranchingStory.Proofs.Entries
import BranchingStory.Proofs.Json.WriteRead
import BranchingStory.Proofs.Narrative.Threads
import BranchingStory.Record.Conversation

/-!
# Records read back

A record that is written as JSON is read as the same record.  Of a conversation this needs
that the stages of its threads have labels of stages and stand once for every character.
-/

namespace BranchingStory

/-! ### Checks -/

namespace Checked

variable {α β κ : Type}

/-- Two outcomes pass together when both do. -/
theorem both_eq_ok {γ : Type} {f : α → β → γ} {a : Checked α} {b : Checked β} {c : γ}
    (h : both f a b = .ok c) :
  ∃ x y, a = .ok x ∧ b = .ok y ∧ c = f x y
  := by
  cases a with
  | error issues => cases b <;> cases h
  | ok x =>
      cases b with
      | error issues => cases h
      | ok y => exact ⟨x, y, rfl, rfl, (Except.ok.inj h).symm⟩

/-- A function and its argument pass when both do. -/
theorem ap_eq_ok {f : Checked (α → β)} {a : Checked α} {b : β} (h : ap f a = .ok b) :
  ∃ g x, f = .ok g ∧ a = .ok x ∧ b = g x
  := both_eq_ok h

/-- A check under a step passes what it passes by itself. -/
theorem under_eq_ok_iff {s : Step} {r : Checked α} {a : α} :
  under s r = .ok a ↔ r = .ok a
  := by
  cases r <;> simp [under]

/-- An optional member is absent, or its value passes. -/
theorem optional_eq_ok {name : Str} {absent a : α} {check : Json → Checked α} {v : Option Json}
    (h : optional name absent check v = .ok a) :
  a = absent ∨ ∃ w, v = some w ∧ check w = .ok a
  := by
  cases v with
  | none => exact .inl (Except.ok.inj h).symm
  | some w => exact .inr ⟨w, rfl, under_eq_ok_iff.mp h⟩

/-- Items that all pass their check pass as a list. -/
theorem items_map {check : Json → Checked α} {form : α → Json} {as : List α}
    (h : ∀ a ∈ as, check (form a) = .ok a) (n : Nat) :
  items check n (as.map form) = .ok as
  := by
  induction as generalizing n with
  | nil => rfl
  | cons a as ih =>
      rw [List.map_cons, items, h a List.mem_cons_self,
        ih (fun b hb => h b (List.mem_cons_of_mem _ hb))]
      rfl

/-- Members pass when all names and all values pass their checks. -/
theorem members_map {checkName : Str → Checked κ} (name : κ → Str)
    (hn : ∀ k, checkName (name k) = .ok k) {check : Json → Checked α} (form : α → Json)
    (h : ∀ a, check (form a) = .ok a) (es : List (κ × α)) :
  members checkName check (es.map fun e => (name e.1, form e.2)) = .ok es
  := by
  induction es with
  | nil => rfl
  | cons e es ih =>
      rw [List.map_cons, members, hn, h, ih]
      rfl

end Checked

namespace Json

/-- A list of records that pass their check passes. -/
theorem checkList_map {α : Type} {check : Json → Checked α} (form : α → Json) {as : List α}
    (h : ∀ a ∈ as, check (form a) = .ok a) :
  checkList check (.arr (as.map form)) = .ok as
  := Checked.items_map h 0

/-- A list of texts is read back. -/
theorem checkList_ofTexts (ts : List Text) :
  checkList checkText (ofTexts ts) = .ok ts
  := checkList_map .text fun _ _ => rfl

/-! ### Values without numbers -/

mutual

/-- A value without numbers has none that is not finite. -/
theorem hasNonFinite_of_numberFree : (v : Json) → v.numberFree = true →
  v.hasNonFinite = false
  | .null, _ => by simp [hasNonFinite]
  | .bool _, _ => by simp [hasNonFinite]
  | .int _, hv => by simp [numberFree] at hv
  | .float _, hv => by simp [numberFree] at hv
  | .str _, _ => by simp [hasNonFinite]
  | .arr vs, hv => by
      rw [numberFree] at hv
      rw [hasNonFinite]
      apply hasNonFiniteItem_of_numberFree vs hv
  | .obj ms, hv => by
      rw [numberFree] at hv
      rw [hasNonFinite]
      apply hasNonFiniteMember_of_numberFree ms hv

/-- Items without numbers have none that is not finite. -/
theorem hasNonFiniteItem_of_numberFree : (vs : List Json) → numberFreeItems vs = true →
  hasNonFiniteItem vs = false
  | [], _ => rfl
  | v :: vs, hv => by
      rw [numberFreeItems, Bool.and_eq_true] at hv
      rw [hasNonFiniteItem, hasNonFinite_of_numberFree v hv.1,
        hasNonFiniteItem_of_numberFree vs hv.2, Bool.or_false]

/-- Members without numbers have none that is not finite. -/
theorem hasNonFiniteMember_of_numberFree : (ms : List (Str × Json)) →
    numberFreeMembers ms = true →
  hasNonFiniteMember ms = false
  | [], _ => rfl
  | (_, v) :: ms, hv => by
      rw [numberFreeMembers, Bool.and_eq_true] at hv
      rw [hasNonFiniteMember, hasNonFinite_of_numberFree v hv.1,
        hasNonFiniteMember_of_numberFree ms hv.2, Bool.or_false]

end

/-! ### Depths -/

/-- An array is one deeper than its items. -/
theorem depth_arr_le {n : Nat} {vs : List Json} (h : ∀ v ∈ vs, v.depth ≤ n) :
  (arr vs).depth ≤ n + 1
  := by
  have hitems : depthItems vs ≤ n := by
    induction vs with
    | nil => simp [depthItems]
    | cons v vs ih =>
        rw [depthItems]
        apply Nat.max_le.mpr
        exact ⟨h v List.mem_cons_self, ih fun w hw => h w (List.mem_cons_of_mem _ hw)⟩
  cases vs with
  | nil => simp [depth]
  | cons v vs =>
      rw [depth]
      omega

/-- An object is one deeper than the values of its members. -/
theorem depth_obj_le {n : Nat} {ms : List (Str × Json)} (h : ∀ m ∈ ms, m.2.depth ≤ n) :
  (obj ms).depth ≤ n + 1
  := by
  have hmembers : depthMembers ms ≤ n := by
    induction ms with
    | nil => simp [depthMembers]
    | cons m ms ih =>
        rw [depthMembers]
        apply Nat.max_le.mpr
        exact ⟨h m List.mem_cons_self, ih fun w hw => h w (List.mem_cons_of_mem _ hw)⟩
  cases ms with
  | nil => simp [depth]
  | cons m ms =>
      rw [depth]
      omega

/-- A value without numbers that is at most `n` deep and whose strings are texts. -/
structure Flat (n : Nat) (v : Json) : Prop where
  depth : v.depth ≤ n
  numberFree : v.numberFree = true
  hasHalf : v.hasHalf = false

/-- A text is flat. -/
theorem Flat.str (n : Nat) (t : Text) :
  Flat n (.str t)
  := ⟨by simp [Json.depth], rfl, rfl⟩

theorem Flat.bool (n : Nat) (b : Bool) :
  Flat n (.bool b)
  := ⟨by simp [Json.depth], rfl, rfl⟩

/-- An array of flat values is flat, one deeper. -/
theorem Flat.arr {n : Nat} {vs : List Json} (h : ∀ v ∈ vs, Flat n v) :
  Flat (n + 1) (.arr vs)
  := ⟨depth_arr_le fun v hv => (h v hv).depth,
      numberFreeItems_iff.mpr fun v hv => (h v hv).numberFree,
      hasHalf_arr fun v hv => (h v hv).hasHalf⟩

/-- An object of flat values under texts is flat, one deeper. -/
theorem Flat.obj {n : Nat} {ms : List (Str × Json)}
    (h : ∀ m ∈ ms, m.1.hasHalf = false ∧ Flat n m.2) :
  Flat (n + 1) (.obj ms)
  := ⟨depth_obj_le fun m hm => (h m hm).2.depth,
      numberFreeMembers_iff.mpr fun m hm => (h m hm).2.numberFree,
      hasHalf_obj fun m hm => ⟨(h m hm).1, (h m hm).2.hasHalf⟩⟩

theorem Flat.mono {n m : Nat} {v : Json} (h : Flat n v) (hnm : n ≤ m) :
  Flat m v
  := ⟨Nat.le_trans h.depth hnm, h.numberFree, h.hasHalf⟩

/-- A list of texts is flat. -/
theorem Flat.ofTexts (ts : List Text) :
  Flat 1 (ofTexts ts)
  := by
  apply Flat.arr
  intro v hv
  obtain ⟨t, -, rfl⟩ := List.mem_map.mp hv
  apply Flat.str

/-! ### Members that are not repeated -/

/-- An array repeats no members when its items repeat none. -/
theorem merged_arr {vs : List Json} (h : ∀ v ∈ vs, v.merged = v) :
  (arr vs).merged = arr vs
  := by
  have hitems : mergedItems vs = vs := by
    induction vs with
    | nil => rfl
    | cons v vs ih =>
        rw [mergedItems, h v List.mem_cons_self, ih fun w hw => h w (List.mem_cons_of_mem _ hw)]
  rw [merged, hitems]

/-- An object repeats no members when its names differ and its values repeat none. -/
theorem merged_obj {ms : List (Str × Json)} (hn : (ms.map (·.1)).Nodup)
    (h : ∀ m ∈ ms, m.2.merged = m.2) :
  (obj ms).merged = obj ms
  := by
  have hmembers : mergedMembers ms = ms := by
    clear hn
    induction ms with
    | nil => rfl
    | cons m ms ih =>
        rw [mergedMembers, h m List.mem_cons_self, ih fun w hw => h w (List.mem_cons_of_mem _ hw)]
  rw [merged, hmembers, Entries.ofPairs_of_nodup hn]

/-- A list of texts repeats no members. -/
theorem merged_ofTexts (ts : List Text) :
  (ofTexts ts).merged = ofTexts ts
  := by
  apply merged_arr
  intro v hv
  obtain ⟨t, -, rfl⟩ := List.mem_map.mp hv
  rfl

/-- A value without repeated members is read back from its text. -/
theorem readMerged_write (room : Room) {l : Layout} (hl : l.IsGapped) {n : Nat} {v : Json}
    (hv : Flat n v) (hn : n < 8) (hm : v.merged = v) :
  readMerged room (write l v) = .ok v
  := by
  have hd : v.depth < room.depth :=
    Nat.lt_of_le_of_lt hv.depth (Nat.lt_of_lt_of_le hn room.isEnough)
  have hread := readWithin_write (.ofRoom room) hl hv.numberFree hv.hasHalf hd
  rw [readMerged, read, hread, Except.map, hm]

end Json

namespace Progress

/-- The form of progress is flat. -/
theorem toJson_flat (p : Progress) :
  Json.Flat 1 p.toJson
  := by
  apply Json.Flat.obj
  intro m hm
  obtain ⟨e, -, rfl⟩ := List.mem_map.mp hm
  exact ⟨rfl, Json.Flat.str 0 e.2⟩

/-- Threads that stand once each are not repeated in their JSON form. -/
theorem merged_toJson {p : Progress} (h : (p.map (·.1)).Nodup) :
  p.toJson.merged = p.toJson
  := by
  have hkeys : ((p.map fun e => (Str.text e.1, Json.text e.2)).map (·.1))
      = (p.map (·.1)).map .text := by
    rw [List.map_map, List.map_map]
    rfl
  apply Json.merged_obj
  · rw [hkeys]
    exact h.map fun _ _ => Str.text.inj
  · intro m hm
    obtain ⟨e, -, rfl⟩ := List.mem_map.mp hm
    rfl

/-- Stages that stand once each are read back from their labels. -/
theorem checkMap_ofStages {es : Entries Stage} (h : (es.map (·.1)).Nodup) :
  Json.checkMap Json.textOf Stage.check (ofStages es).toJson = .ok es
  := by
  have hform : (ofStages es).toJson
      = .obj (es.map fun e => (Str.text e.1, Json.text e.2.label)) := by
    simp [toJson, ofStages, Entries.mapValues]
  have hs (s : Stage) : Stage.check (.text s.label) = .ok s := by
    rw [Stage.check, Json.checkLabel, Stage.ofLabel?_label]
  have hmembers : Checked.members Json.textOf Stage.check
      (es.map fun e => (Str.text e.1, Json.text e.2.label)) = .ok es :=
    Checked.members_map .text (fun _ => rfl) (Json.text ·.label) hs es
  rw [hform, Json.checkMap, hmembers]
  simp only [Except.map, Entries.ofPairs_of_nodup h]

end Progress

/-! ### Records -/

namespace Record

variable {α : Type} [Record α]

/-- The text of a record is read as far as its form passes its check. -/
theorem read_write_eq_check {l : Json.Layout} (hl : l.IsGapped) {a : α}
    (hf : Json.Flat depthLimit (toJson a)) :
  (read (write l a) : Checked α) = check .notRecord (toJson a)
  := by
  have hd : (toJson a).depth < limits.depth := Nat.lt_of_le_of_lt hf.depth (by decide)
  rw [read, write, Json.readWithin_write limits hl hf.numberFree hf.hasHalf hd]
  dsimp only
  rw [if_neg (Nat.not_lt.mpr hf.depth)]

/-- A record whose form passes its check is read back from its text. -/
theorem read_write {l : Json.Layout} (hl : l.IsGapped) {a : α}
    (hf : Json.Flat depthLimit (toJson a)) (hc : check .notRecord (toJson a) = .ok a) :
  read (write l a) = .ok a
  := by rw [read_write_eq_check hl hf, hc]

/-- A list of flat records is flat, one deeper. -/
theorem listToJson_flat {n : Nat} (h : ∀ a : α, Json.Flat n (toJson a)) (as : List α) :
  Json.Flat (n + 1) (listToJson as)
  := by
  apply Json.Flat.arr
  intro v hv
  obtain ⟨a, -, rfl⟩ := List.mem_map.mp hv
  apply h

end Record

/-- An emotion is read back from its label. -/
theorem Emotion.ofLabel?_label (e : Emotion) :
  Emotion.ofLabel? e.label = some e
  := by
  cases e <;> rfl

/-- A segment is read back. -/
theorem Segment.check_toJson (other : IssueKind) (s : Segment) :
  check other s.toJson = .ok s
  := by
  have he : Json.checkLabel Emotion.ofLabel? (.text s.emotion.label) = .ok s.emotion := by
    rw [Json.checkLabel, Emotion.ofLabel?_label]
  have hm : s.toJson.member? "emotion" = some (.text s.emotion.label) := rfl
  simp only [toJson, check]
  rw [← toJson, hm, Checked.optional, he]
  rfl

/-- A choice is read back. -/
theorem Choice.check_toJson (other : IssueKind) (c : Choice) :
  check other c.toJson = .ok c
  := rfl

/-- The form of a segment is flat. -/
theorem Segment.toJson_flat (s : Segment) :
  Json.Flat 1 s.toJson
  := by
  apply Json.Flat.obj
  simp [Json.Flat.str]

theorem Choice.toJson_flat (c : Choice) :
  Json.Flat 1 c.toJson
  := by
  apply Json.Flat.obj
  simp [Json.Flat.str, Json.Flat.bool]

/-- The form of a turn is flat. -/
theorem Turn.toJson_flat (t : Turn) :
  Json.Flat 3 t.toJson
  := by
  have hs : Json.Flat 2 (Record.listToJson t.segments) :=
    Record.listToJson_flat Segment.toJson_flat _
  have hc : Json.Flat 2 (Record.listToJson t.choices) :=
    Record.listToJson_flat Choice.toJson_flat _
  apply Json.Flat.obj
  simp [Json.Flat.bool, hs, hc]

namespace Conversation

/-- A conversation whose text is read back: every character's thread has one stage, under the
label of a stage. -/
def IsStorable (c : Conversation) : Prop :=
  ∃ es : Entries Stage, c.progress = Progress.ofStages es ∧ (es.map (·.1)).Nodup

/-- The labels of stages that stand once each are read back. -/
theorem checkProgress_ofStages {es : Entries Stage} (h : (es.map (·.1)).Nodup) :
  checkProgress (Progress.ofStages es).toJson = .ok (Progress.ofStages es)
  := by
  rw [checkProgress, Progress.checkMap_ofStages h]
  rfl

/-- A conversation is read back. -/
theorem check_toJson {c : Conversation} (h : c.IsStorable) (other : IssueKind) :
  check other c.toJson = .ok c
  := by
  obtain ⟨es, hes, hn⟩ := h
  have hsegments : Json.checkList (Segment.check other) (Record.listToJson c.segments)
      = .ok c.segments := Json.checkList_map Segment.toJson fun s _ => Segment.check_toJson other s
  have hchoices : Json.checkList (Choice.check other) (Record.listToJson c.choices)
      = .ok c.choices := Json.checkList_map Choice.toJson fun o _ => Choice.check_toJson other o
  have hprogress : checkProgress c.progress.toJson = .ok c.progress := by
    rw [hes]
    apply checkProgress_ofStages hn
  have m₁ : c.toJson.member? "segments" = some (Record.listToJson c.segments) := rfl
  have m₂ : c.toJson.member? "choices" = some (Record.listToJson c.choices) := rfl
  have m₃ : c.toJson.member? "selected_choices" = some (.ofTexts c.selected) := rfl
  have m₄ : c.toJson.member? "completed_threads" = some (.ofTexts c.completed) := rfl
  have m₅ : c.toJson.member? "character_progress" = some c.progress.toJson := rfl
  simp only [toJson, check]
  rw [← toJson, m₁, m₂, m₃, m₄, m₅]
  simp only [Checked.optional, hsegments, hchoices, hprogress, Json.checkList_ofTexts]
  rfl

theorem toJson_flat (c : Conversation) :
  Json.Flat 3 c.toJson
  := by
  apply Json.Flat.obj
  have hs : Json.Flat 2 (Record.listToJson c.segments) :=
    Record.listToJson_flat Segment.toJson_flat _
  have hc : Json.Flat 2 (Record.listToJson c.choices) :=
    Record.listToJson_flat Choice.toJson_flat _
  have ht (ts : List Text) : Json.Flat 2 (.ofTexts ts) := (Json.Flat.ofTexts ts).mono (by decide)
  have hp : Json.Flat 2 c.progress.toJson := (Progress.toJson_flat _).mono (by decide)
  simp [Json.Flat.str, Json.Flat.bool, hs, hc, ht, hp]

/-- A stored conversation is read back from its text. -/
theorem read_write {c : Conversation} (h : c.IsStorable) :
  Record.read (Record.write .indented c) = .ok c
  := Record.read_write Json.Layout.indented_isGapped (c.toJson_flat.mono (by decide))
      (check_toJson h .notRecord)

end Conversation

end BranchingStory
