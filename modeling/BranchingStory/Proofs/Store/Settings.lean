import BranchingStory.Proofs.Json.ReadWrite
import BranchingStory.Proofs.Json.Unwritable
import BranchingStory.Proofs.Store.Effect

/-!
# The law of the settings

Settings are the defaults with the changes that were made, and in every setting the last change
counts that supplies it.  A change is refused, and nothing happens, exactly when it supplies to a
setting what cannot be written: `Store.answerSettings_lawful`.  Settings are read from the file in
which a change stored all of them, so what a change writes must be read as the same settings.  It
is, because changes are proper values, as all are that were read:
`Settings.Call.change_of_readMerged`.
-/

namespace BranchingStory

open Operation

namespace Settings

variable {es fs given : List (Str × Json)}

/-! ### Mixing audio settings -/

/-- Audio settings that are given go before those there are. -/
theorem get?_mixAll (es : List (Str × Json)) (hn : (given.map (·.1)).Nodup) (key : Str) :
  Entries.get? (mixAll es given) key = (Entries.get? given key).or (Entries.get? es key)
  := by
  induction given generalizing es with
  | nil => rfl
  | cons e given ih =>
      rw [List.map_cons, List.nodup_cons] at hn
      have hcons : mixAll es (e :: given) = mixAll (Entries.put e.1 e.2 es) given := rfl
      rw [hcons, ih _ hn.2, Entries.get?_put, Entries.get?_cons]
      split_ifs with he
      · rw [Entries.get?_of_notMem (he ▸ hn.1)]
        rfl
      · rfl

/-- Values for names that are there leave the names. -/
theorem keys_mixAll (h : ∀ e ∈ given, e.1 ∈ es.map (·.1)) :
  (mixAll es given).map (·.1) = es.map (·.1)
  := by
  induction given generalizing es with
  | nil => rfl
  | cons e given ih =>
      rw [List.forall_mem_cons] at h
      have hkeys : (Entries.put e.1 e.2 es).map (·.1) = es.map (·.1) := by
        rw [Entries.keys_put, if_pos h.1]
      have hcons : mixAll es (e :: given) = mixAll (Entries.put e.1 e.2 es) given := rfl
      rw [hcons, ih (by rw [hkeys]; exact h.2), hkeys]

/-- All audio settings are given anew. -/
theorem mixAll_of_keys (hkeys : fs.map (·.1) = es.map (·.1)) (hn : (es.map (·.1)).Nodup) :
  mixAll es fs = fs
  := by
  have hsame : (mixAll es fs).map (·.1) = es.map (·.1) :=
    keys_mixAll fun e he => hkeys ▸ List.mem_map_of_mem he
  apply Entries.eq_of_get? (hsame.trans hkeys.symm) (by rwa [hsame])
  intro key hk
  rw [hsame, ← hkeys, ← Entries.isSome_get?_iff, Option.isSome_iff_exists] at hk
  obtain ⟨v, hv⟩ := hk
  rw [get?_mixAll es (by rwa [hkeys]), hv]
  rfl

/-- Audio settings of known names that are given go before those that were given before. -/
theorem mixKnown_override (f : Str → Option Json) (hes : (es.map (·.1)).Nodup)
    (hn : (given.map (·.1)).Nodup) :
  mixKnown (Entries.override f es) given
    = Entries.override (fun name => (Entries.get? given name).or (f name)) es
  := by
  have hknown : mixKnown (Entries.override f es) given
      = mixAll (Entries.override f es)
        (Entries.restrict (Entries.hasKey (Entries.override f es)) given) := rfl
  have hsame : (mixKnown (Entries.override f es) given).map (·.1) = es.map (·.1) := by
    rw [hknown, keys_mixAll, Entries.keys_override]
    intro e he
    exact Entries.hasKey_iff.mp (List.mem_filter.mp he).2
  apply Entries.eq_of_get? (hsame.trans (Entries.keys_override _ _).symm) (by rwa [hsame])
  intro key hk
  rw [hsame] at hk
  have hhas : Entries.hasKey (Entries.override f es) key = true := by
    rwa [Entries.hasKey_iff, Entries.keys_override]
  obtain ⟨v, hv⟩ := Option.isSome_iff_exists.mp (Entries.isSome_get?_iff.mpr hk)
  have hrestrict :
      ((Entries.restrict (Entries.hasKey (Entries.override f es)) given).map (·.1)).Nodup :=
    hn.sublist (List.filter_sublist.map _)
  rw [hknown, get?_mixAll _ hrestrict, Entries.get?_restrict hhas, Entries.get?_override,
    Entries.get?_override, hv]
  cases Entries.get? given key with
  | none => rfl
  | some w => rfl

/-! ### Settings that changes leave -/

/-- Changes of settings, by their names. -/
abbrev Changes := List (Str × Json)

/-- The audio settings that changes give; other values than objects give none. -/
def audioOf (fields : Changes) : List (Str × Json) :=
  match Entries.get? fields "audio" with
  | some (.obj given) => given
  | _ => []

/-- What is given by the last changes that give something. -/
def lastGiven (give : Changes → Option Json) (past : List Changes) : Option Json :=
  past.reverse.findSome? give

/-- The defaults with changes, the last ones last: every setting has the value of the last changes
that give it. -/
def overridden (past : List Changes) : Settings where
  tailLimit :=
    (lastGiven (Entries.get? · "fallback_tail_limit") past).getD defaults.tailLimit
  chunkSize := (lastGiven (Entries.get? · "stream_chunk_size") past).getD defaults.chunkSize
  delay := (lastGiven (Entries.get? · "typewriter_delay_ms") past).getD defaults.delay
  audio :=
    Entries.override (fun name => lastGiven (fun fields => Entries.get? (audioOf fields) name) past)
      defaults.audio

/-- What is given last is what the last changes give, if they give anything. -/
theorem lastGiven_append (give : Changes → Option Json) (past : List Changes)
    (fields : Changes) :
  lastGiven give (past ++ [fields]) = (give fields).or (lastGiven give past)
  := by
  rw [lastGiven, List.reverse_append, List.findSome?_append]
  simp [lastGiven]

theorem getD_lastGiven_append (give : Changes → Option Json) (past : List Changes)
    (fields : Changes) (v : Json) :
  (lastGiven give (past ++ [fields])).getD v = (give fields).getD ((lastGiven give past).getD v)
  := by
  rw [lastGiven_append]
  cases give fields with
  | none => rfl
  | some w => rfl

/-- What is given last was given by some of the changes. -/
theorem getD_lastGiven_of_forall {P : Json → Prop} {give : Changes → Option Json}
    {past : List Changes} {v : Json} (hv : P v)
    (h : ∀ fields ∈ past, ∀ w, give fields = some w → P w) :
  P ((lastGiven give past).getD v)
  := by
  cases hlast : lastGiven give past with
  | none => exact hv
  | some w =>
      obtain ⟨fields, hmem, hgive⟩ := List.exists_of_findSome?_eq_some hlast
      exact h fields (List.mem_reverse.mp hmem) w hgive

/-- What is mixed with audio settings are those that the members give. -/
theorem audio_overlay {mix : List (Str × Json) → List (Str × Json) → List (Str × Json)}
    (hmix : ∀ audio, mix audio [] = audio) (s : Settings) (fields : Changes) :
  (overlay mix s fields).audio = mix s.audio (audioOf fields)
  := by
  rw [overlay, audioOf]
  cases Entries.get? fields "audio" with
  | none => exact (hmix s.audio).symm
  | some v =>
      cases v with
      | obj given => rfl
      | _ => exact (hmix s.audio).symm

/-- An audio setting is given in an object. -/
theorem exists_of_audioOf {fields : Changes} {name : Str} {v : Json}
    (hv : Entries.get? (audioOf fields) name = some v) :
  ∃ given, Entries.get? fields "audio" = some (.obj given) ∧ Entries.get? given name = some v
  := by
  rw [audioOf] at hv
  split at hv
  · next hget => exact ⟨_, hget, hv⟩
  · cases hv

/-- Proper changes give every audio setting once. -/
theorem nodup_audioOf {fields : Changes} (h : (Json.obj fields).IsProper) :
  ((audioOf fields).map (·.1)).Nodup
  := by
  rw [audioOf]
  split
  · next hget => exact (h.of_get? hget).nodup
  · exact List.nodup_nil

/-- The defaults have every audio setting once. -/
theorem nodup_defaults :
  (defaults.audio.map (·.1)).Nodup
  := by decide

/-- Changes are put over those that were made before. -/
theorem overlay_overridden (past : List Changes) {fields : Changes}
    (h : (Json.obj fields).IsProper) :
  overlay mixKnown (overridden past) fields = overridden (past ++ [fields])
  := by
  have haudio : (overlay mixKnown (overridden past) fields).audio
      = (overridden (past ++ [fields])).audio := by
    rw [audio_overlay fun _ => rfl, overridden, overridden,
      mixKnown_override _ nodup_defaults (nodup_audioOf h)]
    simp only [lastGiven_append]
  have hrest : overridden (past ++ [fields])
      = { overlay mixKnown (overridden past) fields with
          audio := (overridden (past ++ [fields])).audio } := by
    simp only [overridden, overlay, getD_lastGiven_append]
  rw [hrest, ← haudio]

example :
  overridden [[("delay", .int 5), ("audio", .obj [("music_volume", .int 1)])], [("audio", .arr [])]]
    = { defaults with
        audio := [("sound_enabled", .bool true), ("music_enabled", .bool true),
          ("music_volume", .int 1)] }
  := rfl

/-! ### Proper settings -/

/-- Settings are proper when all their values are. -/
theorem isProper_toJson_iff {v : Settings} :
  v.toJson.IsProper
    ↔ v.tailLimit.IsProper ∧ v.chunkSize.IsProper ∧ v.delay.IsProper ∧ (Json.obj v.audio).IsProper
  := by
  have hn : (["fallback_tail_limit", "stream_chunk_size", "typewriter_delay_ms", "audio"] :
      List Str).Nodup := by decide
  rw [toJson, Json.isProper_obj, List.map_cons, List.map_cons, List.map_cons, List.map_cons]
  simp only [List.forall_mem_cons, List.not_mem_nil, false_implies, implies_true, and_true,
    List.map_nil, hn, true_and, Str.IsProper]

/-- The defaults are proper. -/
theorem isProper_defaults :
  defaults.toJson.IsProper
  := by
  have hfloats : ∀ x ∈ defaults.toJson.floats, x.IsProper := by decide
  have hstrs : ∀ t ∈ defaults.toJson.strs, t.IsProper := by decide
  exact ⟨rfl, hfloats, hstrs⟩

/-- Settings that proper changes leave are proper. -/
theorem isProper_overridden {past : List Changes}
    (h : ∀ fields ∈ past, (Json.obj fields).IsProper) :
  (overridden past).toJson.IsProper
  := by
  obtain ⟨htail, hchunk, hdelay, haudio⟩ := isProper_toJson_iff.mp isProper_defaults
  have hscalar (name : Text) {v : Json} (hv : v.IsProper) :
      ((lastGiven (Entries.get? · name) past).getD v).IsProper :=
    getD_lastGiven_of_forall hv fun fields hmem _ hget => (h fields hmem).of_get? hget
  refine isProper_toJson_iff.mpr ⟨hscalar _ htail, hscalar _ hchunk, hscalar _ hdelay, ?_⟩
  rw [Json.isProper_obj]
  constructor
  · rw [overridden, Entries.keys_override]
    exact nodup_defaults
  · intro m hm
    obtain ⟨e, he, rfl⟩ := List.mem_map.mp hm
    obtain ⟨hname, hvalue⟩ := (Json.isProper_obj.mp haudio).2 e he
    refine ⟨hname, getD_lastGiven_of_forall hvalue fun fields hmem v hget => ?_⟩
    obtain ⟨given, hgiven, hname⟩ := exists_of_audioOf hget
    exact ((h fields hmem).of_get? hgiven).of_get? hname

/-! ### Values of settings -/

/-- The values of settings, each with the number of objects inside which it is stored. -/
def values (v : Settings) : List (Nat × Json) :=
  [(1, v.tailLimit), (1, v.chunkSize), (1, v.delay)] ++ v.audio.map fun e => (2, e.2)

/-- What changes supply to a setting or, in an object, to an audio setting, with the number of
objects inside which it is to be stored. -/
inductive Supplies (fields : Changes) : (level : Nat) → Json → Prop where
  | setting {name : Text} {v : Json} (hname : name ∈ names)
      (hv : Entries.get? fields name = some v) :
    Supplies fields 1 v
  | audio {name : Str} {v : Json} (hname : name ∈ defaults.audio.map (·.1))
      (hv : Entries.get? (audioOf fields) name = some v) :
    Supplies fields 2 v

variable {v : Settings} {past : List Changes} {fields : Changes} {level k : Nat} {u w : Json}

/-- What lies in a value of settings lies in the object of all of them. -/
theorem liesIn_toJson (hu : (level, u) ∈ v.values) (hw : w.LiesIn k u) :
  w.LiesIn (k + level) v.toJson
  := by
  rw [values, List.mem_append, List.mem_map] at hu
  obtain hu | ⟨e, he, heq⟩ := hu
  · simp only [List.mem_cons, Prod.mk.injEq, List.not_mem_nil, or_false] at hu
    obtain ⟨rfl, rfl⟩ | ⟨rfl, rfl⟩ | ⟨rfl, rfl⟩ := hu
    · exact .member (m := ("fallback_tail_limit", v.tailLimit)) (by simp) hw
    · exact .member (m := ("stream_chunk_size", v.chunkSize)) (by simp) hw
    · exact .member (m := ("typewriter_delay_ms", v.delay)) (by simp) hw
  · obtain ⟨rfl, rfl⟩ := Prod.mk.inj heq
    exact .member (m := ("audio", .obj v.audio)) (by simp) (.member he hw)

/-- What cannot be written of settings lies in one of their values. -/
theorem exists_value_of_liesIn {room : Json.Room} {f : Json.ReadFault} {n : Nat}
    (hw : w.LiesIn n v.toJson) (hf : Json.Unwritable room.depth n w f) :
  ∃ level u k, (level, u) ∈ v.values ∧ w.LiesIn k u ∧ n = k + level
  := by
  have henough := room.isEnough
  cases hw with
  | here =>
      -- There is room for the settings themselves, and for their audio settings below.
      cases hf with
      | deep hc h => omega
  | @member k m _ hm hw =>
      simp only [List.mem_cons, List.not_mem_nil, or_false] at hm
      obtain rfl | rfl | rfl | rfl := hm
      · exact ⟨1, _, k, by simp [values], hw, rfl⟩
      · exact ⟨1, _, k, by simp [values], hw, rfl⟩
      · exact ⟨1, _, k, by simp [values], hw, rfl⟩
      · cases hw with
        | here =>
            cases hf with
            | deep hc h => omega
        | @member k e _ he hw =>
            exact ⟨2, e.2, k, List.mem_append_right _ (List.mem_map_of_mem he), hw, rfl⟩

/-- Behind changes a value of the settings is supplied by them or was there before. -/
theorem mem_values_append (h : (level, u) ∈ (overridden (past ++ [fields])).values) :
  Supplies fields level u ∨ (level, u) ∈ (overridden past).values
  := by
  rw [values, List.mem_append, List.mem_map] at h
  obtain h | ⟨e, he, heq⟩ := h
  · have hscalar {name : Text} (hname : name ∈ names) {d w : Json}
        (hw : w = (lastGiven (Entries.get? · name) (past ++ [fields])).getD d) :
        Supplies fields 1 w ∨ w = (lastGiven (Entries.get? · name) past).getD d := by
      rw [getD_lastGiven_append] at hw
      cases hget : Entries.get? fields (name : Str) with
      | none =>
          rw [hget] at hw
          exact .inr hw
      | some g =>
          rw [hget] at hw
          exact .inl (.setting hname (hget.trans (congrArg some hw.symm)))
    simp only [List.mem_cons, Prod.mk.injEq, List.not_mem_nil, or_false] at h
    obtain ⟨rfl, hu⟩ | ⟨rfl, hu⟩ | ⟨rfl, hu⟩ := h
    · refine (hscalar (by decide) hu).imp_right fun hu => ?_
      simp [values, overridden, hu]
    · refine (hscalar (by decide) hu).imp_right fun hu => ?_
      simp [values, overridden, hu]
    · refine (hscalar (by decide) hu).imp_right fun hu => ?_
      simp [values, overridden, hu]
  · -- An audio setting stands in its place among the defaults.
    obtain ⟨d, hd, rfl⟩ := List.mem_map.mp he
    obtain ⟨rfl, rfl⟩ := Prod.mk.inj heq
    dsimp only
    rw [getD_lastGiven_append]
    cases hget : Entries.get? (audioOf fields) d.1 with
    | none =>
        rw [Option.getD_none]
        exact .inr (List.mem_append_right _ (List.mem_map.mpr ⟨_, List.mem_map_of_mem hd, rfl⟩))
    | some g => exact .inl (.audio (List.mem_map_of_mem hd) hget)

/-- What changes supply is among the values behind them. -/
theorem Supplies.mem_values (h : Supplies fields level u) (past : List Changes) :
  (level, u) ∈ (overridden (past ++ [fields])).values
  := by
  cases h with
  | @setting name _ hname hu =>
      have hscalar (d : Json) : ((1, u) : Nat × Json)
          = (1, (lastGiven (Entries.get? · (name : Str)) (past ++ [fields])).getD d) := by
        rw [getD_lastGiven_append, hu, Option.getD_some]
      simp only [names, List.mem_cons, List.not_mem_nil, or_false] at hname
      simp only [values, List.mem_append, List.mem_cons, List.not_mem_nil, or_false]
      obtain rfl | rfl | rfl := hname
      · exact .inl (.inl (hscalar _))
      · exact .inl (.inr (.inl (hscalar _)))
      · exact .inl (.inr (.inr (hscalar _)))
  | @audio name _ hname hu =>
      obtain ⟨d, hd, rfl⟩ := List.mem_map.mp hname
      have hvalue :
          (lastGiven (fun fields => Entries.get? (audioOf fields) d.1) (past ++ [fields])).getD d.2
            = u := by
        rw [getD_lastGiven_append, hu, Option.getD_some]
      refine List.mem_append_right _ (List.mem_map.mpr ⟨(d.1, u), ?_, rfl⟩)
      exact List.mem_map.mpr ⟨d, hd, Prod.ext rfl hvalue⟩

/-! ### Changes that are refused -/

/-- Changes are refused when they supply to a setting what cannot be written. -/
def Refuses (room : Json.Room) (fields : Changes) (f : Json.ReadFault) : Prop :=
  ∃ level u k w, Supplies fields level u ∧ w.LiesIn k u
    ∧ Json.Unwritable room.depth (k + level) w f

variable {room : Json.Room} {f : Json.ReadFault}

/-- Settings are refused for what changes supply, if they could be written before. -/
theorem refuses_of_excess? (hpast : (overridden past).toJson.excess? room.depth = none)
    (h : (overridden (past ++ [fields])).toJson.excess? room.depth = some f) :
  Refuses room fields f
  := by
  obtain ⟨w, n, hw, hf⟩ := Json.exists_of_excess? h
  obtain ⟨level, u, k, hu, hwu, rfl⟩ := exists_value_of_liesIn hw hf
  obtain hsupplied | hu := mem_values_append hu
  · exact ⟨level, u, k, w, hsupplied, hwu, hf⟩
  · exact absurd hpast ((liesIn_toJson hu hwu).excess?_ne_none hf)

/-- Settings that can be written are not refused. -/
theorem not_refuses_of_excess?
    (h : (overridden (past ++ [fields])).toJson.excess? room.depth = none) (f : Json.ReadFault) :
  ¬ Refuses room fields f
  := by
  rintro ⟨level, u, k, w, hu, hw, hf⟩
  exact (liesIn_toJson (hu.mem_values past) hw).excess?_ne_none hf h

/-- The names of the members of an object, in order. -/
def memberNames : Json → List Str
  | .obj ms => ms.map (·.1)
  | _ => []

/-- Settings with the names of the defaults and no others, in the order of the defaults. -/
structure HasDefaultNames (v : Settings) : Prop where
  settings : memberNames v.toJson = memberNames defaults.toJson
  audio : memberNames (.obj v.audio) = memberNames (.obj defaults.audio)

/-- Changes leave the names of the settings and their order. -/
theorem hasDefaultNames_overridden (past : List Changes) :
  (overridden past).HasDefaultNames
  := by
  refine ⟨rfl, ?_⟩
  rw [overridden, memberNames, Entries.keys_override]
  rfl

/-- Settings that give all audio settings hide the defaults. -/
theorem overlay_toJson (h : v.HasDefaultNames) :
  (members? v.toJson).map (overlay mixAll defaults) = .ok v
  := by
  have haudio : mixAll defaults.audio v.audio = v.audio := mixAll_of_keys h.audio nodup_defaults
  have hoverlay : (members? v.toJson).map (overlay mixAll defaults)
      = .ok { v with audio := mixAll defaults.audio v.audio } := rfl
  rw [hoverlay, haudio]

/-- Proper settings are read back from the file in which they were written. -/
theorem settingsOf_write (hv : v.toJson.IsProper) (hnames : v.HasDefaultNames)
    (he : v.toJson.excess? room.depth = none) :
  Store.settingsOf room (some (Json.write .indentedAscii v.toJson)) = .ok v
  := by
  obtain ⟨hnewlines, hread⟩ :=
    hv.readMerged_write Json.Layout.indentedAscii_isGapped rfl he
  rw [Store.settingsOf, hnewlines, read, hread]
  dsimp only
  rw [overlay_toJson hnames]
  rfl

/-! ### Calls -/

/-- What is asked about the settings. -/
inductive Call where
  | get
  | change (fields : Changes)
  | reopen

namespace Call

/-- What a call does in a store; opening a store anew gives no settings. -/
def action : Call → Store.Action (Option Settings)
  | get => some <$> Store.settings
  | change fields => some <$> Store.changeSettings (.obj fields)
  | reopen => do
    Store.reopen
    return none

/-- A call whose changes are proper. -/
def IsProper : Call → Prop
  | change fields => (Json.obj fields).IsProper
  | _ => True

/-- Changes that were read from a text are proper. -/
theorem change_of_readMerged {room : Json.Room} {t : Text} {fields : Changes}
    (h : Json.readMerged room t = .ok (.obj fields)) :
  (change fields).IsProper
  := (Json.isProper_of_readMerged h).1

/-- What a call gives behind changes that were made, and the changes that were made behind it. -/
inductive Answers (room : Json.Room) (past : List Changes) :
    Call → Except Store.Fault (Option Settings) → List Changes → Prop where
  | get : Answers room past get (.ok (some (overridden past))) past
  | reopen : Answers room past reopen (.ok none) past
  | changed {fields : Changes} (h : ∀ f, ¬ Refuses room fields f) :
    Answers room past (change fields) (.ok (some (overridden (past ++ [fields]))))
      (past ++ [fields])
  | refused {fields : Changes} {f : Json.ReadFault} (h : Refuses room fields f) :
    Answers room past (change fields) (.error (.settings (.ofJson f))) past

/-- What calls give one after another behind changes that were made. -/
inductive AnswersEach (room : Json.Room) :
    List Changes → List Call → List (Except Store.Fault (Option Settings)) → Prop where
  | nil {past : List Changes} : AnswersEach room past [] []
  | cons {past next : List Changes} {c : Call} {r : Except Store.Fault (Option Settings)}
      {cs : List Call} {rs : List (Except Store.Fault (Option Settings))}
      (h : Answers room past c r next) (hs : AnswersEach room next cs rs) :
    AnswersEach room past (c :: cs) (r :: rs)

end Call

end Settings

namespace Store

open Settings (overridden)

/-- Asks a store one call about the settings after another and goes on behind a fault. -/
def answerSettings : Store → List Settings.Call → List (Except Fault (Option Settings))
  | _, [] => []
  | s, c :: cs => (run c.action s).1 :: answerSettings (run c.action s).2 cs

/-- A store that was opened, in which settings can be stored, and read when they were written. -/
structure TakesSettings (s : Store) : Prop where
  place : s.disk.IsPlace settingsPath
  folder : s.disk.hasFolder Archive.root = true
  room : s.supply.writing.depth ≤ s.supply.reading.depth

/-- A store with the settings that proper changes leave. -/
structure HasChanged (room : Json.Room) (s : Store) (past : List Settings.Changes) : Prop where
  takes : s.TakesSettings
  writing : s.supply.writing = room
  proper : ∀ fields ∈ past, (Json.obj fields).IsProper
  written : (overridden past).toJson.excess? room.depth = none
  settings : settingsOf s.supply.reading (s.disk.file? settingsPath) = .ok (overridden past)

variable {room : Json.Room} {s : Store} {past : List Settings.Changes}

/-- The settings of a store are those that the changes leave. -/
theorem HasChanged.run_settings (h : HasChanged room s past) :
  run Store.settings s = (.ok (overridden past), s)
  := by
  rw [Store.run_settings, h.settings]

/-- Opening a store anew changes no settings. -/
theorem HasChanged.run_reopen (h : HasChanged room s past) :
  ∃ s', run reopen s = (.ok ⟨⟩, s') ∧ HasChanged room s' past
  := by
  have hfolder : s.disk.makeFolder Archive.root = .ok s.disk := by
    rw [Disk.makeFolder, if_pos h.takes.folder]
  refine ⟨{ s with remembered := none }, ?_, ⟨h.takes.place, h.takes.folder, h.takes.room⟩,
    h.writing, h.proper, h.written, h.settings⟩
  rw [reopen, run_bind_ok (run_get s), hfolder, run_bind_ok (run_settle _ _ _), run_set]

/-- Proper changes leave the settings with them to be written. -/
theorem HasChanged.run_changeSettings_eq (h : HasChanged room s past)
    {fields : Settings.Changes} (hfields : (Json.obj fields).IsProper) :
  run (changeSettings (.obj fields)) s
    = run (do
        let t ← settle .settings ((overridden (past ++ [fields])).write room)
        let d ← settle .disk (s.disk.write settingsPath t)
        set { s with disk := d }
        return overridden (past ++ [fields])) s
  := by
  have hchange : (overridden past).change (.obj fields) = .ok (overridden (past ++ [fields])) :=
    congrArg Except.ok (Settings.overlay_overridden past hfields)
  rw [changeSettings, run_bind_ok h.run_settings, hchange, run_bind_ok (run_settle _ _ _),
    run_bind_ok (run_get s), h.writing]

/-- Proper changes are stored with those that were made before when all can be written. -/
theorem HasChanged.run_change_of_written (h : HasChanged room s past)
    {fields : Settings.Changes} (hfields : (Json.obj fields).IsProper)
    (he : (overridden (past ++ [fields])).toJson.excess? room.depth = none) :
  ∃ s', run (some <$> changeSettings (.obj fields)) s
      = (.ok (some (overridden (past ++ [fields]))), s')
    ∧ HasChanged room s' (past ++ [fields])
  := by
  have hpast : ∀ given ∈ past ++ [fields], (Json.obj given).IsProper := by
    rw [List.forall_mem_append, List.forall_mem_singleton]
    exact ⟨h.proper, hfields⟩
  have hd (t : Text) : s.disk.write settingsPath t = .ok (s.disk.putFile settingsPath t) :=
    Disk.write_eq_ok_iff.mpr ⟨h.takes.place, rfl⟩
  have hread : (overridden (past ++ [fields])).toJson.excess? s.supply.reading.depth = none :=
    Json.excess?_eq_none_of_le (h.writing ▸ h.takes.room) he
  have hfile := Settings.settingsOf_write (Settings.isProper_overridden hpast)
    (Settings.hasDefaultNames_overridden _) hread
  rw [run_map, h.run_changeSettings_eq hfields, Settings.write, Json.writeWithin, he]
  generalize Json.write .indentedAscii (overridden (past ++ [fields])).toJson = t at hfile ⊢
  refine ⟨{ s with disk := s.disk.putFile settingsPath t }, ?_,
    ⟨h.takes.place.putFile _, h.takes.folder, h.takes.room⟩, h.writing, hpast, he, ?_⟩
  · rw [run_bind_ok (run_settle _ _ _), hd, run_bind_ok (run_settle _ _ _),
      run_bind_ok (run_set _ _), run_pure]
    rfl
  · rw [Disk.file?_putFile, if_pos rfl]
    exact hfile

/-- Proper changes fail and leave the store when not all can be written. -/
theorem HasChanged.run_change_of_excess (h : HasChanged room s past)
    {fields : Settings.Changes} (hfields : (Json.obj fields).IsProper) {f : Json.ReadFault}
    (he : (overridden (past ++ [fields])).toJson.excess? room.depth = some f) :
  run (some <$> changeSettings (.obj fields)) s = (.error (.settings (.ofJson f)), s)
  := by
  rw [run_map, h.run_changeSettings_eq hfields, Settings.write, Json.writeWithin, he,
    run_bind_error (run_settle _ _ _)]
  rfl

/-- Every call gives what the changes that were made before say. -/
theorem HasChanged.answer (h : HasChanged room s past) {c : Settings.Call} (hc : c.IsProper) :
  ∃ r next s', run c.action s = (r, s') ∧ c.Answers room past r next ∧ HasChanged room s' next
  := by
  cases c with
  | get =>
      refine ⟨_, past, s, ?_, .get, h⟩
      rw [Settings.Call.action, run_map, h.run_settings]
      rfl
  | change fields =>
      cases he : (overridden (past ++ [fields])).toJson.excess? room.depth with
      | none =>
          obtain ⟨s', hrun, hs'⟩ := h.run_change_of_written hc he
          exact ⟨_, _, s', hrun, .changed (Settings.not_refuses_of_excess? he), hs'⟩
      | some f =>
          exact ⟨_, past, s, h.run_change_of_excess hc he,
            .refused (Settings.refuses_of_excess? h.written he), h⟩
  | reopen =>
      obtain ⟨s', hrun, hs'⟩ := h.run_reopen
      refine ⟨_, past, s', ?_, .reopen, hs'⟩
      rw [Settings.Call.action, run_bind_ok hrun, run_pure]

/-- All calls give what the changes that were made before them say. -/
theorem HasChanged.answerSettings (h : HasChanged room s past) {calls : List Settings.Call}
    (hcalls : ∀ c ∈ calls, c.IsProper) :
  Settings.Call.AnswersEach room past calls (s.answerSettings calls)
  := by
  induction calls generalizing s past with
  | nil => exact .nil
  | cons c cs ih =>
      obtain ⟨r, next, s', hrun, hr, hs'⟩ := h.answer (hcalls c List.mem_cons_self)
      rw [Store.answerSettings, hrun]
      exact .cons hr (ih hs' fun c' hc' => hcalls c' (List.mem_cons_of_mem _ hc'))

end Store

end BranchingStory
