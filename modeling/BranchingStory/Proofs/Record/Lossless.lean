import BranchingStory.Proofs.Store.Actions

/-!
# Texts that lose nothing

Every record is read back from its text, whatever stands in its texts, its lists and its maps, and
the conversations of an export are those that were exported.  What passes the check of a
conversation is a conversation that can be read back, so all that are found on a disk are.
-/

namespace BranchingStory

/-! ### Checks that pass -/

/-- A map that passes its check has every name once. -/
theorem Json.nodup_of_checkMap {α κ : Type} [DecidableEq κ] {checkName : Str → Checked κ}
    {check : Json → Checked α} {v : Json} {es : List (κ × α)}
    (h : checkMap checkName check v = .ok es) :
  (es.map (·.1)).Nodup
  := by
  cases v with
  | obj ms =>
      rw [checkMap] at h
      cases hm : Checked.members checkName check ms with
      | error issues =>
          rw [hm] at h
          cases h
      | ok pairs =>
          rw [hm] at h
          rw [← Except.ok.inj h]
          apply Entries.nodup_ofPairs
  | null | bool _ | int _ | float _ | str _ | arr _ => cases h

namespace Conversation

/-- Progress that passes its check has stages, one for each name. -/
theorem exists_stages_of_checkProgress {v : Json} {p : Progress} (h : checkProgress v = .ok p) :
  ∃ es : Entries Stage, p = Progress.ofStages es ∧ (es.map (·.1)).Nodup
  := by
  rw [checkProgress] at h
  cases hes : Json.checkMap Json.textOf Stage.check v with
  | error issues =>
      rw [hes] at h
      cases h
  | ok es =>
      rw [hes] at h
      exact ⟨es, (Except.ok.inj h).symm, Json.nodup_of_checkMap hes⟩

/-- Whatever passes the check of a conversation can be read back from its text. -/
theorem isStorable_of_check {other : IssueKind} {v : Json} {c : Conversation}
    (h : check other v = .ok c) :
  c.IsStorable
  := by
  cases v with
  | obj ms =>
      rw [check] at h
      obtain ⟨_, finished, h₁, -, rfl⟩ := Checked.ap_eq_ok h
      obtain ⟨_, progress, h₂, hprogress, rfl⟩ := Checked.ap_eq_ok h₁
      obtain ⟨_, completed, h₃, -, rfl⟩ := Checked.ap_eq_ok h₂
      obtain ⟨_, selected, h₄, -, rfl⟩ := Checked.ap_eq_ok h₃
      obtain ⟨_, choices, h₅, -, rfl⟩ := Checked.ap_eq_ok h₄
      obtain ⟨_, segments, h₆, -, rfl⟩ := Checked.ap_eq_ok h₅
      obtain ⟨_, updated, h₇, -, rfl⟩ := Checked.ap_eq_ok h₆
      obtain ⟨_, created, h₈, -, rfl⟩ := Checked.ap_eq_ok h₇
      obtain ⟨_, session, h₉, -, rfl⟩ := Checked.ap_eq_ok h₈
      obtain ⟨_, prompt, h₁₀, -, rfl⟩ := Checked.ap_eq_ok h₉
      obtain ⟨_, title, h₁₁, -, rfl⟩ := Checked.ap_eq_ok h₁₀
      obtain ⟨_, id, h₁₂, -, rfl⟩ := Checked.ap_eq_ok h₁₁
      obtain rfl := Except.ok.inj h₁₂
      obtain rfl | ⟨w, -, hw⟩ := Checked.optional_eq_ok hprogress
      · exact ⟨[], rfl, List.nodup_nil⟩
      · apply exists_stages_of_checkProgress hw
  | null | bool _ | int _ | float _ | str _ | arr _ => cases h

end Conversation

/-! ### Turns and routes -/

/-- A turn is read back. -/
theorem Turn.check_toJson (other : IssueKind) (t : Turn) :
  check other t.toJson = .ok t
  := by
  have hsegments : Json.checkList (Segment.check other) (Record.listToJson t.segments)
      = .ok t.segments := Json.checkList_map Segment.toJson fun s _ => Segment.check_toJson other s
  have hchoices : Json.checkList (Choice.check other) (Record.listToJson t.choices)
      = .ok t.choices := Json.checkList_map Choice.toJson fun o _ => Choice.check_toJson other o
  have m₁ : t.toJson.member? "segments" = some (Record.listToJson t.segments) := rfl
  have m₂ : t.toJson.member? "choices" = some (Record.listToJson t.choices) := rfl
  simp only [toJson, check]
  rw [← toJson, m₁, m₂]
  simp only [Checked.optional, hsegments, hchoices]
  rfl

/-- A route is read back, if every character has one stage. -/
theorem Route.check_toJson {r : Route} (h : (r.progress.map (·.1)).Nodup) (other : IssueKind) :
  check other r.toJson = .ok r
  := by
  have hprogress : Json.checkMap Json.textOf Stage.check (Progress.ofStages r.progress).toJson
      = .ok r.progress := Progress.checkMap_ofStages h
  have m₁ : r.toJson.member? "completed_threads" = some (.ofTexts r.completed) := rfl
  have m₂ : r.toJson.member? "character_progress"
      = some (Progress.ofStages r.progress).toJson := rfl
  simp only [toJson, check]
  rw [← toJson, m₁, m₂]
  simp only [Checked.optional, hprogress, Json.checkList_ofTexts]
  rfl

/-- The form of a route is flat. -/
theorem Route.toJson_flat (r : Route) :
  Json.Flat 2 r.toJson
  := by
  apply Json.Flat.obj
  simp [Json.Flat.str, Json.Flat.bool, Json.Flat.ofTexts, Progress.toJson_flat]

/-! ### Exports -/

/-- A list of records repeats no members when none of them does. -/
theorem Record.merged_listToJson {α : Type} [Record α] {as : List α}
    (h : ∀ a ∈ as, (toJson a).merged = toJson a) :
  (listToJson as).merged = listToJson as
  := by
  apply Json.merged_arr
  intro v hv
  obtain ⟨a, ha, rfl⟩ := List.mem_map.mp hv
  apply h a ha

theorem Segment.merged_toJson (s : Segment) :
  s.toJson.merged = s.toJson
  := by
  apply Json.merged_obj
  · simp only [List.map_cons, List.map_nil]
    decide
  · simp [Json.merged]

theorem Choice.merged_toJson (c : Choice) :
  c.toJson.merged = c.toJson
  := by
  apply Json.merged_obj
  · simp only [List.map_cons, List.map_nil]
    decide
  · simp [Json.merged]

/-- The form of a conversation repeats no member. -/
theorem Conversation.merged_toJson {c : Conversation} (h : c.IsStorable) :
  c.toJson.merged = c.toJson
  := by
  obtain ⟨es, hes, hn⟩ := h
  have hs : (Record.listToJson c.segments).merged = Record.listToJson c.segments :=
    Record.merged_listToJson fun s _ => s.merged_toJson
  have hc : (Record.listToJson c.choices).merged = Record.listToJson c.choices :=
    Record.merged_listToJson fun o _ => o.merged_toJson
  have hp : c.progress.toJson.merged = c.progress.toJson := by
    apply Progress.merged_toJson
    rwa [hes, Progress.keys_ofStages]
  apply Json.merged_obj
  · simp only [List.map_cons, List.map_nil]
    decide
  · simp [Json.merged, Json.merged_ofTexts, hs, hc, hp]

namespace Store

open Operation

variable {session : Text} {cs : List Conversation}

/-- The form of an export is flat. -/
theorem exportJson_flat (session : Text) (cs : List Conversation) :
  Json.Flat 5 (exportJson session cs)
  := by
  have hcs : Json.Flat 4 (Record.listToJson cs) :=
    Record.listToJson_flat Conversation.toJson_flat cs
  apply Json.Flat.obj
  simp [Json.Flat.str, hcs]

/-- The text of an export is read as the session and its conversations. -/
theorem readMerged_exportJson (room : Json.Room) (h : ∀ c ∈ cs, c.IsStorable) :
  Json.readMerged room (Json.write .indented (exportJson session cs))
    = .ok (exportJson session cs)
  := by
  have hcs : (Record.listToJson cs).merged = Record.listToJson cs :=
    Record.merged_listToJson fun c hc => Conversation.merged_toJson (h c hc)
  apply Json.readMerged_write room Json.Layout.indented_isGapped (exportJson_flat session cs)
    (by decide)
  apply Json.merged_obj
  · simp only [List.map_cons, List.map_nil]
    decide
  · simp [Json.merged, hcs]

/-- A text that stands for a session and its conversations: in any room it is read as an object that
has these two members and no others, and the items of the second one pass as the conversations. -/
structure Exports (t session : Text) (cs : List Conversation) : Prop where
  read : ∀ room, Json.readMerged room t = .ok (.obj [("user_session", .str session),
    ("conversations", .arr (cs.map Conversation.toJson))])
  conversations : Json.checkList (Conversation.check .notRecord)
    (.arr (cs.map Conversation.toJson)) = .ok cs

theorem exports_exportJson (h : ∀ c ∈ cs, c.IsStorable) (session : Text) :
  Exports (Json.write .indented (exportJson session cs)) session cs
  where
  read room := readMerged_exportJson room h
  conversations := Json.checkList_map Conversation.toJson
    fun c hc => Conversation.check_toJson (h c hc) .notRecord

end Store

/-- What is read from a text passed its check. -/
theorem Record.exists_check_of_read {α : Type} [Record α] {t : Text} {a : α}
    (h : read t = .ok a) :
  ∃ v, check .notRecord v = .ok a
  := by
  unfold read at h
  split at h
  · cases h
  · next v _ =>
    split_ifs at h
    · cases h
    · exact ⟨v, h⟩

/-- What is read from the disk can be read back from its text. -/
theorem Archive.isStorable_of_readAt {d : Disk} {p : Path} {c : Conversation}
    (h : readAt d p = .ok c) :
  c.IsStorable
  := by
  rw [readAt, Operation.bind_eq_ok_iff] at h
  obtain ⟨t, -, h⟩ := h
  obtain ⟨v, hv⟩ := Record.exists_check_of_read (Operation.mapError_eq_ok_iff.mp h)
  apply Conversation.isStorable_of_check hv

namespace Store

open Operation

/-- The conversations of a session are exported as they are listed, and all of them can be read
back from their texts. -/
theorem run_exportText {session : Text} {cs : List Conversation} {s s' : Store}
    (h : run (all session) s = (.ok cs, s')) :
  run (exportText session) s = (.ok (Json.write .indented (exportJson session cs)), s')
    ∧ s' = s ∧ ∀ c ∈ cs, c.IsStorable
  := by
  refine ⟨?_, ?_, fun c hc => ?_⟩
  · rw [exportText, run_bind_ok h, run_pure]
  · rw [run_all_eq] at h
    exact (congrArg Prod.snd h).symm
  · rw [run_all_eq] at h
    have hall := mapError_eq_ok_iff.mp (congrArg Prod.fst h)
    obtain ⟨p, -, hp⟩ := (Archive.mem_of_all hall).2 c hc
    apply Archive.isStorable_of_readAt hp

end Store

/-! ### All records -/

namespace Record

variable {α : Type} [Record α]

/-- A record that neither of its texts loses, the one of one line and the one with a line for
every item: the text is read as the record, also out of a file, where newlines are unified. -/
def IsKept (a : α) : Prop :=
  ∀ l, l = .compact ∨ l = .indented →
    read (write l a) = .ok a ∧ Text.unifyNewlines (write l a) = write l a

/-- A record whose form passes its check is kept. -/
theorem isKept_of_check {a : α} (hf : Json.Flat depthLimit (toJson a))
    (hc : check .notRecord (toJson a) = .ok a) :
  IsKept a
  := by
  intro l hl
  have hgapped : l.IsGapped := by
    obtain rfl | rfl := hl
    · apply Json.Layout.compact_isGapped
    · apply Json.Layout.indented_isGapped
  exact ⟨read_write hgapped hf hc, Json.unifyNewlines_write hgapped hf.numberFree⟩

/-- All records are kept, with lists and maps in their order, and so are the conversations of an
export, which are those that are stored. -/
theorem isKept :
  (∀ s : Segment, IsKept s) ∧ (∀ c : Choice, IsKept c) ∧ (∀ t : Turn, IsKept t)
    ∧ (∀ r : Route, (r.progress.map (·.1)).Nodup → IsKept r)
    ∧ (∀ c : Conversation, c.IsStorable → IsKept c)
    ∧ (∀ (session : Text) (cs : List Conversation), (∀ c ∈ cs, c.IsStorable) →
        Store.Exports (Json.write .indented (Store.exportJson session cs)) session cs)
    ∧ ∀ (s s' : Store) (session : Text) (cs : List Conversation),
        Operation.run (Store.all session) s = (.ok cs, s') →
          ∃ t, Operation.run (Store.exportText session) s = (.ok t, s)
            ∧ Store.Exports t session cs
  := by
  refine ⟨fun s => ?_, fun c => ?_, fun t => ?_, fun r h => ?_, fun c h => ?_, ?_, ?_⟩
  · apply isKept_of_check (s.toJson_flat.mono (by decide)) (s.check_toJson _)
  · apply isKept_of_check (c.toJson_flat.mono (by decide)) (c.check_toJson _)
  · apply isKept_of_check (t.toJson_flat.mono (by decide)) (t.check_toJson _)
  · apply isKept_of_check (r.toJson_flat.mono (by decide)) (Route.check_toJson h _)
  · apply isKept_of_check (c.toJson_flat.mono (by decide)) (Conversation.check_toJson h _)
  · intro session cs h
    apply Store.exports_exportJson h
  · intro s s' session cs h
    obtain ⟨hrun, rfl, hstorable⟩ := Store.run_exportText h
    exact ⟨_, hrun, Store.exports_exportJson hstorable session⟩

/-- A conversation with quotes, backslashes, control characters and characters outside ASCII, and
with lists that are empty beside others that are not. -/
def rare : Conversation where
  id := "a-1"
  title := "\"Fog\" \\ \t\r\n\x00\x1f\x7f"
  prompt := "Ünder the lámp 灯 😀\u2028"
  session := "ann"
  created := "t1"
  updated := "t2"
  segments := [⟨"VENTI", .happy, "♪"⟩, ⟨"", .neutral, ""⟩]
  choices := []
  selected := ["b", "a", "b"]
  completed := []
  progress := .ofStages [("venti", .close), ("\"", .unset), ("", .first)]
  finished := true

/-- A store with one conversation. -/
def rareStore : Store :=
  { Store.new .absent .counting with
    disk := ⟨[(["sessions", "ann", "a-1.json"], write .indented rare)],
      [["sessions"], ["sessions", "ann"]]⟩ }

/-- A conversation with rare characters is kept in every layout and in the export. -/
theorem isKept_rare_exported :
  rare.IsStorable ∧ IsKept rare
    ∧ Operation.run (Store.all "ann") rareStore = (.ok [rare], rareStore)
    ∧ ∃ t, Operation.run (Store.exportText "ann") rareStore = (.ok t, rareStore)
        ∧ Store.Exports t "ann" [rare]
  := by
  have hstorable : rare.IsStorable := ⟨_, rfl, by decide⟩
  have hread : Archive.readAt rareStore.disk ["sessions", "ann", "a-1.json"] = .ok rare :=
    Archive.readAt_of_file? rfl hstorable
  have hfiles : Archive.filesIn rareStore.disk (Archive.root ++ [("ann" : Text)])
      = [(["sessions", "ann", "a-1.json"] : Path)] := by decide
  have hall : Operation.run (Store.all "ann") rareStore = (.ok [rare], rareStore) := by
    have hfolder : (Archive.folder "ann").mapError Archive.Fault.key
        = .ok (Archive.root ++ [("ann" : Text)]) := rfl
    rw [Store.run_all_eq, Archive.all, hfolder]
    simp only [bind, Except.bind, hfiles, List.mapM_cons, hread, List.mapM_nil, pure, Except.pure,
      List.mergeSort_singleton, Except.mapError]
  obtain ⟨-, -, -, -, hkept, -, hexport⟩ := isKept
  exact ⟨hstorable, hkept rare hstorable, hall, hexport _ _ _ _ hall⟩

end Record

end BranchingStory
