import BranchingStory.Http.Service
import BranchingStory.Proofs.Json.WriteRead
import BranchingStory.Proofs.Text.Utf8
import Mathlib.Data.List.Basic

/-!
# Requests on a conversation

What requests ask for, and the requests that start a conversation and take a choice in it:
their address leads to the conversation of the session, whatever keys name them, and their
body is read as the choice, whatever text that is.
-/

namespace BranchingStory

/-! ### Texts between separators -/

namespace Text

/-- Every text has a part, if only the empty one. -/
theorem split_ne_nil (separator : Char) (t : Text) :
  split separator t ≠ []
  := by
  cases t with
  | nil => simp [split]
  | cons c t =>
      rw [split]
      split
      · simp
      · split_ifs
        · simp
        · simp

/-- A text is cut at the first separator. -/
theorem split_append_cons {separator : Char} {t : Text} (h : separator ∉ t) (u : Text) :
  split separator (t ++ separator :: u) = t :: split separator u
  := by
  obtain ⟨p, ps, hp⟩ := List.exists_cons_of_ne_nil (split_ne_nil separator u)
  induction t with
  | nil =>
      rw [List.nil_append, split, hp]
      simp
  | cons c t ih =>
      rw [List.mem_cons, not_or] at h
      rw [List.cons_append, split, ih h.2]
      simp [Ne.symm h.1]

/-- A text without separators is the beginning of the first part. -/
theorem exists_split_append {separator : Char} {t : Text} (h : separator ∉ t) (u : Text) :
  ∃ p ps, split separator (t ++ u) = (t ++ p) :: ps
  := by
  induction t with
  | nil => exact List.exists_cons_of_ne_nil (split_ne_nil separator u)
  | cons c t ih =>
      rw [List.mem_cons, not_or] at h
      obtain ⟨p, ps, hp⟩ := ih h.2
      refine ⟨p, ps, ?_⟩
      rw [List.cons_append, split, hp]
      simp [Ne.symm h.1]

/-- A text without separators is its own only part. -/
theorem split_of_notMem {separator : Char} {t : Text} (h : separator ∉ t) :
  split separator t = [t]
  := by
  induction t with
  | nil => rfl
  | cons c t ih =>
      rw [List.mem_cons, not_or] at h
      rw [split, ih h.2]
      simp [Ne.symm h.1]

/-- A text is cut at the first place where the character stands. -/
theorem cutFirst_append_cons {c : Char} {t : Text} (h : c ∉ t) (u : Text) :
  cutFirst c (t ++ c :: u) = (t, u)
  := by
  have ht : ∀ d ∈ t, (decide (d ≠ c)) = true := by
    intro d hd
    simpa using ne_of_mem_of_not_mem hd h
  rw [cutFirst, List.takeWhile_append_of_pos ht, List.dropWhile_append_of_pos ht]
  simp

end Text

/-- A text without percent signs has no escapes. -/
theorem unescape_of_notMem {t : Text} (h : '%' ∉ t) :
  unescape t = t
  := by
  induction t with
  | nil => rfl
  | cons c t ih =>
      rw [List.mem_cons, not_or] at h
      rw [unescape, unescapeFrom.eq_def]
      dsimp only
      rw [if_neg (Ne.symm h.1), ← unescape, ih h.2]
      rfl

/-- A character that no key has is in none. -/
theorem Key.notMem {t : Text} (h : isKey t = true) {c : Char} (hc : admits c = false) :
  c ∉ t
  := by
  intro hm
  simp only [isKey, Bool.and_eq_true, List.all_eq_true] at h
  rw [h.2 c hm] at hc
  cases hc

/-- No key is empty. -/
theorem Key.ne_nil {t : Text} (h : isKey t = true) :
  t ≠ []
  := by
  rintro rfl
  cases h

namespace Http

/-! ### Addresses -/

/-- A request that asks for an endpoint and names the key of a session. -/
structure Request.Asks (r : Request) (e : Endpoint) (session : Text) : Prop where
  endpoint : Endpoint.lookup r.method (Address.ofText r.address).path = .found e
  session : (Address.ofText r.address).field? sessionField = some session

/-- A request to an address under the conversations. -/
def Request.OnConversations (r : Request) : Prop :=
  ("/api/conversations" : Text) <+: (Address.ofText r.address).path

/-- A request that asks to change the settings. -/
def Request.ChangesSettings (r : Request) : Prop :=
  Endpoint.lookup r.method (Address.ofText r.address).path = .found .changeSettings

/-- What the path of a conversation begins with. -/
def pathLead : Text := "/api/conversations/"

/-- The path under which something is done with a conversation. -/
def actionPath (id action : Text) : Text :=
  pathLead ++ id ++ '/' :: action

/-- The address under which something is done with the conversation of a session. -/
def actionAddress (session id action : Text) : Text :=
  actionPath id action ++ '?' :: (sessionField ++ '=' :: session)

/-- A character that neither a key nor the rest of a path has is not in the path. -/
theorem notMem_actionPath {id action : Text} (hid : Key.isKey id = true)
    (ha : Key.isKey action = true) {c : Char} (hc : c ∉ '/' :: pathLead)
    (hk : Key.admits c = false) :
  c ∉ actionPath id action
  := by
  rw [List.mem_cons, not_or] at hc
  rw [actionPath, List.mem_append, List.mem_append, List.mem_cons, not_or, not_or, not_or]
  exact ⟨⟨hc.2, Key.notMem hid hk⟩, hc.1, Key.notMem ha hk⟩

/-- A query with the key of a session holds nothing but its name, an equals sign and what keys
admit. -/
theorem notMem_query {session : Text} (hs : Key.isKey session = true) {c : Char}
    (hc : c ∉ '=' :: sessionField) (hk : Key.admits c = false) :
  c ∉ sessionField ++ '=' :: session
  := by
  rw [List.mem_cons, not_or] at hc
  rw [List.mem_append, List.mem_cons, not_or, not_or]
  exact ⟨hc.2, hc.1, Key.notMem hs hk⟩

/-- A field without escapes stands for itself. -/
theorem unescapeField_of_notMem {t : Text} (hplus : '+' ∉ t) (hpercent : '%' ∉ t) :
  Address.unescapeField t = t
  := by
  have hmap : t.map (fun c => if c = '+' then ' ' else c) = t := by
    apply (List.map_congr_left _).trans (List.map_id t)
    intro c hc
    rw [if_neg (ne_of_mem_of_not_mem hc hplus), id]
  rw [Address.unescapeField, hmap, unescape_of_notMem hpercent]

/-- The address leads to its path and the key of the session. -/
theorem ofText_actionAddress {session id action : Text} (hs : Key.isKey session = true)
    (hid : Key.isKey id = true) (ha : Key.isKey action = true) :
  Address.ofText (actionAddress session id action)
    = ⟨actionPath id action, [(sessionField, session)]⟩
  := by
  have hpath := unescape_of_notMem (notMem_actionPath (c := '%') hid ha (by decide)
    (by decide))
  have hcut := Text.cutFirst_append_cons (notMem_actionPath (c := '?') hid ha (by decide)
    (by decide)) (sessionField ++ '=' :: session)
  have hsplit := Text.split_of_notMem (notMem_query (c := '&') hs (by decide)
    (by decide))
  have hfield := Text.cutFirst_append_cons (c := '=') (t := sessionField) (by decide)
    session
  have hvalue := unescapeField_of_notMem (Key.notMem hs (c := '+') (by decide))
    (Key.notMem hs (c := '%') (by decide))
  have hname : Address.unescapeField sessionField = sessionField := by decide +kernel
  have hany : (sessionField ++ '=' :: session).isEmpty = false := by
    simp
  rw [Address.ofText, actionAddress, hcut]
  dsimp only
  rw [hpath, Address.fields, hsplit, List.filter_cons_of_pos (by simp [hany])]
  simp only [List.filter_nil, List.map_cons, List.map_nil, hfield, hname, hvalue]

/-- The parts of the path. -/
theorem split_actionPath {id action : Text} (hid : Key.isKey id = true)
    (ha : Key.isKey action = true) :
  Text.split '/' (actionPath id action) = [[], "api", "conversations", id, action]
  := by
  have hslash : Key.admits '/' = false := by decide
  have hlead : pathLead
      = '/' :: (("api" : Text) ++ '/' :: (("conversations" : Text) ++ ['/'])) := by
    decide
  have hpath : actionPath id action
      = [] ++ '/' :: (("api" : Text) ++ '/' :: (("conversations" : Text)
        ++ '/' :: (id ++ '/' :: action))) := by
    rw [actionPath, hlead]
    simp only [List.cons_append, List.append_assoc, List.nil_append]
  rw [hpath, Text.split_append_cons (by decide), Text.split_append_cons (by decide),
    Text.split_append_cons (by decide), Text.split_append_cons (Key.notMem hid hslash),
    Text.split_of_notMem (Key.notMem ha hslash)]

namespace Endpoint

/-- Parts and segments of different number do not match. -/
theorem matchParts_of_length_ne {ps : List Part} {ss : List Text} (h : ps.length ≠ ss.length) :
  matchParts ps ss = none
  := by
  fun_induction matchParts ps ss <;> simp_all

/-- Only the lines with as many parts count. -/
theorem candidates_eq (segments : List Text) :
  candidates segments
    = (table.filter fun l => l.parts.length = segments.length).filterMap fun l =>
        (matchParts l.parts segments).map fun id => (l.method, l.endpoint id)
  := by
  rw [candidates, List.filterMap_filter]
  apply List.filterMap_congr
  intro l _
  by_cases h : l.parts.length = segments.length
  · simp [h]
  · simp [h, matchParts_of_length_ne h]

/-- A fixed part that is there is passed over. -/
theorem matchParts_fixed (t s : Text) (p : Part) (ps : List Part) (ss : List Text) :
  matchParts (.fixed t :: p :: ps) (t :: s :: ss) = matchParts (p :: ps) (s :: ss)
  := by
  simp [matchParts]

/-- The parts under a conversation match its id and what is done with it. -/
theorem matchParts_underConversation {id : Text} (h : id ≠ []) (name action : Text) :
  matchParts (underConversation [name]) [[], "api", "conversations", id, action]
    = if action = name ∨ action = name ++ ['\n'] then some id else none
  := by
  have hparts : underConversation [name]
      = [.fixed [], .fixed "api", .fixed "conversations", .id, .fixed name] := rfl
  have hid : matchParts [.id, .fixed name] [id, action]
      = if id.isEmpty then none else (matchParts [.fixed name] [action]).map fun _ => id := rfl
  rw [hparts, matchParts_fixed, matchParts_fixed, matchParts_fixed, hid,
    if_neg (by simpa using h), matchParts]
  split_ifs
  · rfl
  · rfl

/-- What can be done with a conversation: the method, its name and the endpoint. -/
def actions : List (Text × Text × (Text → Endpoint)) :=
  [("GET", "context", context), ("POST", "start", start), ("POST", "choose", choose)]

/-- The lines of the table with five parts. -/
theorem filter_table :
  (table.filter fun l => l.parts.length = 5)
    = actions.map fun a => ⟨a.1, underConversation [a.2.1], a.2.2⟩
  := rfl

/-- What the table has for something that is done with a conversation. -/
theorem candidates_underConversation {id : Text} (h : id ≠ []) (action : Text) :
  candidates [[], "api", "conversations", id, action]
    = actions.filterMap fun a =>
      if action = a.2.1 ∨ action = a.2.1 ++ ['\n'] then some (a.1, a.2.2 id) else none
  := by
  have hlength : ([[], ("api" : Text), ("conversations" : Text), id, action]).length = 5 := rfl
  rw [candidates_eq, hlength, filter_table, List.filterMap_map]
  apply List.filterMap_congr
  intro a _
  rw [Function.comp_apply, matchParts_underConversation h]
  split_ifs
  · rfl
  · rfl

/-- The start of a conversation is asked for with one method. -/
theorem candidates_start {id : Text} (h : id ≠ []) :
  candidates [[], "api", "conversations", id, "start"] = [(("POST" : Text), start id)]
  := by
  rw [candidates_underConversation h]
  rfl

/-- The path of a choice leads to nothing but the choice. -/
theorem candidates_choose {id : Text} (h : id ≠ []) :
  candidates [[], "api", "conversations", id, "choose"] = [(("POST" : Text), choose id)]
  := by
  rw [candidates_underConversation h]
  rfl

/-- What is found stands in the table. -/
theorem exists_line {method path : Text} {e : Endpoint} (h : lookup method path = .found e) :
  ∃ l ∈ table, ∃ id, matchParts l.parts (Text.split '/' path) = some id ∧ l.endpoint id = e
  := by
  unfold lookup at h
  split at h
  · split_ifs at h
  · split at h
    · next m e' hfind =>
      obtain rfl : e' = e := Lookup.found.inj h
      have hmem := List.mem_of_find?_eq_some hfind
      rw [candidates, List.mem_filterMap] at hmem
      obtain ⟨l, hl, hmatch⟩ := hmem
      obtain ⟨id, hid, hpair⟩ := Option.map_eq_some_iff.mp hmatch
      exact ⟨l, hl, id, hid, congrArg Prod.snd hpair⟩
    · cases h

/-- What is not asked for under the conversations. -/
def others : List Endpoint :=
  [health, settings, changeSettings, opening, story, route]

/-- The lines of the table with something else. -/
theorem parts_of_mem_others {l : Line} (hl : l ∈ table) {id : Text} (h : l.endpoint id ∈ others) :
  l.parts ∈ [under ["health"], under ["settings"], under ["story"], under ["story", "route"]]
  := by
  revert l
  simp [table, others]

/-- A part with another beginning does not match. -/
theorem matchParts_of_beginning {t u p : Text} (h : ¬ u <+: t ++ ['\n']) (ps : List Part)
    (ss : List Text) :
  matchParts (.fixed t :: ps) ((u ++ p) :: ss) = none
  := by
  have hne : u ++ p ≠ t ++ ['\n'] := by
    intro he
    apply h
    rw [← he]
    apply List.prefix_append
  have hne' : u ++ p ≠ t := by
    intro he
    apply h
    rw [← he, List.append_assoc]
    apply List.prefix_append
  unfold matchParts
  split <;> simp_all

end Endpoint

/-- Under the conversations nothing else is found. -/
theorem Request.OnConversations.notMem_others {r : Request} (hr : r.OnConversations) {e : Endpoint}
    (h : Endpoint.lookup r.method (Address.ofText r.address).path = .found e) :
  e ∉ Endpoint.others
  := by
  obtain ⟨v, hv⟩ := hr
  rw [← hv] at h
  obtain ⟨l, hl, id, hmatch, rfl⟩ := Endpoint.exists_line h
  have hslash : '/' ∉ ("conversations" : Text) := by decide
  obtain ⟨p, ps, hsplit⟩ := Text.exists_split_append hslash v
  have hlead : ("/api/conversations" : Text) ++ v
      = [] ++ '/' :: (("api" : Text) ++ '/' :: (("conversations" : Text) ++ v)) := rfl
  rw [hlead, Text.split_append_cons (by decide), Text.split_append_cons (by decide), hsplit]
    at hmatch
  have hdiffers {name : Text} (hname : ¬ ("conversations" : Text) <+: name ++ ['\n'])
      (names : List Text) : l.parts ≠ Endpoint.under (name :: names) := by
    intro hparts
    rw [hparts, Endpoint.under, List.map_cons, Endpoint.matchParts_fixed,
      Endpoint.matchParts_fixed, Endpoint.matchParts_of_beginning hname] at hmatch
    cases hmatch
  intro hothers
  have hparts := Endpoint.parts_of_mem_others hl hothers
  simp only [List.mem_cons, List.not_mem_nil, or_false] at hparts
  obtain hparts | hparts | hparts | hparts := hparts
  · exact hdiffers (by decide) _ hparts
  · exact hdiffers (by decide) _ hparts
  · exact hdiffers (by decide) _ hparts
  · exact hdiffers (by decide) _ hparts

theorem Request.OnConversations.not_changesSettings {r : Request} (hr : r.OnConversations) :
  ¬ r.ChangesSettings
  := fun h => hr.notMem_others h (by decide)

/-! ### The two requests -/

/-- The request that starts a conversation of a session. -/
def startRequest (session id : Text) : Request where
  method := "POST"
  address := actionAddress session id "start"
  body := none
  contentType := []

/-- The request that takes a choice in a conversation of a session. -/
def chooseRequest (session id choice : Text) : Request where
  method := "POST"
  address := actionAddress session id "choose"
  body := some (Json.write .compact (.obj [("choice", .str choice)]))
  contentType := jsonType

variable {session id : Text}

theorem field?_sessionField (path session : Text) :
  Address.field? ⟨path, [(sessionField, session)]⟩ sessionField = some session
  := by
  simp [Address.field?]

/-- The start is asked for. -/
theorem startRequest_asks (hs : Key.isKey session = true) (hid : Key.isKey id = true) :
  (startRequest session id).Asks (.start id) session
  := by
  have ha : Key.isKey "start" = true := by decide
  have haddress : Address.ofText (startRequest session id).address
      = ⟨actionPath id "start", [(sessionField, session)]⟩ := ofText_actionAddress hs hid ha
  constructor
  · rw [haddress, Endpoint.lookup, split_actionPath hid ha,
      Endpoint.candidates_start (Key.ne_nil hid)]
    rfl
  · rw [haddress]
    apply field?_sessionField

/-- The choice is asked for. -/
theorem chooseRequest_asks (hs : Key.isKey session = true) (hid : Key.isKey id = true)
    (choice : Text) :
  (chooseRequest session id choice).Asks (.choose id) session
  := by
  have ha : Key.isKey "choose" = true := by decide
  have haddress : Address.ofText (chooseRequest session id choice).address
      = ⟨actionPath id "choose", [(sessionField, session)]⟩ := ofText_actionAddress hs hid ha
  constructor
  · rw [haddress, Endpoint.lookup, split_actionPath hid ha,
      Endpoint.candidates_choose (Key.ne_nil hid)]
    rfl
  · rw [haddress]
    apply field?_sessionField

/-! ### The body of a choice -/

/-- A text that begins with a brace, a quote and a letter is taken for UTF-8. -/
theorem textOfBytes?_encode (t : Text) :
  Json.textOfBytes? (Utf8.encode ('\x7b' :: '"' :: 'c' :: 'h' :: t))
    = some ('\x7b' :: '"' :: 'c' :: 'h' :: t)
  := by
  have hdetect : Json.Encoding.detect (Utf8.encode ('\x7b' :: '"' :: 'c' :: 'h' :: t)) = .utf8 :=
    rfl
  rw [Json.textOfBytes?, hdetect, Json.Encoding.decode?, Utf8.decode?_encode]
  rfl

/-- A body that is written as JSON is read as the value, if it begins like a choice. -/
theorem readBody_write {r : Request} {v : Json} (hbody : r.body = some (Json.write .compact v))
    (htype : r.contentType = jsonType)
    (hfront : ∃ t, Json.write .compact v = '\x7b' :: '"' :: 'c' :: 'h' :: t)
    (hv : v.numberFree = true) (hs : v.hasHalf = false) (hd : v.depth < 8) :
  readBody r = .ok v.merged
  := by
  obtain ⟨t, ht⟩ := hfront
  have hjson : saysJson jsonType = true := by decide
  have hread := Json.readWithin_write (.ofRoom r.room) Json.Layout.compact_isGapped hv hs
    (Nat.lt_of_lt_of_le hd r.room.isEnough)
  rw [ht] at hread hbody
  simp only [readBody, hbody, htype, hjson, if_true, textOfBytes?_encode, readJson,
    Json.readMerged, Json.read, hread, Except.map]

/-- The choice is read from the body, whatever text it is. -/
theorem checkedBody_chooseRequest (session id choice : Text) :
  checkedBody (chooseRequest session id choice) checkChoice = .ok choice
  := by
  have hdepth : (Json.obj [("choice", .str choice)]).depth < 8 := by
    simp [Json.depth, Json.depthMembers]
  have hhalf : (Json.obj [("choice", .str choice)]).hasHalf = false :=
    Json.hasHalf_obj (by simp)
  have hbody : readBody (chooseRequest session id choice)
      = .ok (.obj [("choice", .str choice)]) :=
    readBody_write rfl rfl ⟨_, rfl⟩ rfl hhalf hdepth
  rw [checkedBody, hbody]
  rfl

end Http

end BranchingStory
