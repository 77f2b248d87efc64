import BranchingStory.Proofs.Entries
import BranchingStory.Store.Basic

/-!
# Catalogs

What the store of conversations means to its callers: a map from the keys of sessions and of
conversations to conversations, in which the one that was written last stands first.  A catalog
answers every call without a disk, files or their texts, and without sorting anything.  A call
touches the conversations of its own key or session only: `Catalog.find?_answer`.
-/

namespace BranchingStory

/-! ### What is entered and shown -/

namespace Conversation

/-- The conversation with a step entered, part by part: a selected choice is noted when it has a
name and was offered so far, segments are added, and parts that are given replace others. -/
def entered (c : Conversation) (r : Revision) (now : Text) : Conversation where
  id := c.id
  title := c.title
  prompt := c.prompt
  session := c.session
  created := c.created
  updated := now
  segments := c.segments ++ r.segments
  choices := match r.choices with
    | some choices => choices
    | none => c.choices
  selected := if r.selected ≠ [] ∧ r.selected ∈ c.choices.map (·.id)
    then c.selected ++ [r.selected] else c.selected
  completed := match r.completed with
    | some completed => completed
    | none => c.completed
  progress := match r.progress with
    | some progress => progress
    | none => c.progress
  finished := match r.finished with
    | some finished => finished
    | none => c.finished

/-- A step is entered by revising the conversation. -/
theorem revise_eq (c : Conversation) (r : Revision) (now : Text) :
  c.revise r now = c.entered r now
  := by
  have hselected : (Choice.isOffered r.selected c.choices && !r.selected.isEmpty) = true
      ↔ r.selected ≠ [] ∧ r.selected ∈ c.choices.map (·.id) := by
    simp [Choice.isOffered, and_comm]
  simp only [revise, entered, hselected]
  congr 1
  · cases r.choices <;> rfl
  · cases r.completed <;> rfl
  · cases r.progress <;> rfl
  · cases r.finished <;> rfl

/-- As many of the latest segments as `n` says, oldest first. -/
def latest (c : Conversation) (n : Int) : List Segment :=
  (c.segments.reverse.take n.toNat).reverse

/-- The last segments are the latest ones. -/
theorem lastSegments_eq (c : Conversation) (n : Int) :
  c.lastSegments n = c.latest n
  := by
  rw [lastSegments, latest, List.take_reverse, List.reverse_reverse]

end Conversation

/-! ### Calls -/

/-- A call of the store of conversations. -/
inductive Call where
  | create (session prompt : Text) (title : Option Text)
  | get (session id : Text)
  | list (session : Text)
  | update (session id : Text) (r : Revision)
  | delete (session id : Text)
  | clear (session : Text)
  | context (session id : Text) (n : Int)
  | exportAll (session : Text)

/-- What a call gives. -/
inductive Answer where
  | created (c : Conversation)
  | found (c : Option Conversation)
  | listed (cs : List Conversation)
  | deleted (here : Bool)
  | cleared (count : Nat)
  | shown (segments : List Segment)
  | exported (t : Text)
  deriving Repr, DecidableEq

/-! ### Catalogs -/

/-- Conversations under the keys of their sessions and their own, each key once and the one
written last in front, beside a supply of stamps and ids and how many of them were given out. -/
structure Catalog where
  supply : Supply
  stamps : Nat
  ids : Nat
  entries : List ((Text × Text) × Conversation)
  distinct : (entries.map (·.1)).Nodup

namespace Catalog

/-- A catalog without conversations. -/
def empty (supply : Supply) : Catalog :=
  ⟨supply, 0, 0, [], List.nodup_nil⟩

/-- The conversation under a key. -/
def find? (k : Catalog) (key : Text × Text) : Option Conversation :=
  Entries.get? k.entries key

/-- The conversations of a session, those written last first. -/
def ofSession (k : Catalog) (session : Text) : List Conversation :=
  (k.entries.filter (·.1.1 == session)).map (·.2)

/-- The catalog after so many more stamps and ids were given out. -/
def give (k : Catalog) (stamps ids : Nat) : Catalog :=
  { k with stamps := k.stamps + stamps, ids := k.ids + ids }

/-- The catalog without the conversations under some keys. -/
def without (k : Catalog) (gone : Text × Text → Bool) : Catalog :=
  { k with
    entries := k.entries.filter fun e => !gone e.1
    distinct := k.distinct.sublist (List.filter_sublist.map _) }

/-- The catalog with a conversation under a key, in front of all others. -/
def put (k : Catalog) (key : Text × Text) (c : Conversation) : Catalog :=
  { k with
    entries := (key, c) :: (k.without (· == key)).entries
    distinct := by
      rw [List.map_cons, List.nodup_cons]
      refine ⟨?_, (k.without _).distinct⟩
      simp [without] }

/-- Answers for a session, if its text is a key. -/
def inSession (k : Catalog) (session : Text) (f : Answer × Catalog) :
    Except Store.Fault Answer × Catalog :=
  match Key.check Key.sessionRole session with
  | .error fault => (.error (.archive (.key fault)), k)
  | .ok _ => (.ok f.1, f.2)

/-- Answers for a conversation of a session, if both texts are keys. -/
def atKey (k : Catalog) (session id : Text) (f : Answer × Catalog) :
    Except Store.Fault Answer × Catalog :=
  match Key.check Key.sessionRole session with
  | .error fault => (.error (.archive (.key fault)), k)
  | .ok _ =>
    match Key.check Key.conversationRole id with
    | .error fault => (.error (.archive (.key fault)), k)
    | .ok _ => (.ok f.1, f.2)

/-- What a call gives, and the catalog afterwards. -/
def answer (k : Catalog) : Call → Except Store.Fault Answer × Catalog
  | .create session prompt title =>
    let id := k.supply.id (k.ids + 1)
    let title := title.getD []
    let c := Conversation.new id (if title.isEmpty then Title.ofPrompt prompt else title) prompt
      session (k.supply.stamp (k.stamps + 1))
    (k.give 1 1).inSession session (.created c, (k.give 1 1).put (session, id) c)
  | .get session id => k.atKey session id (.found (k.find? (session, id)), k)
  | .list session => k.inSession session (.listed (k.ofSession session), k)
  | .update session id r =>
    k.atKey session id (match k.find? (session, id) with
      | none => (.found none, k)
      | some c =>
        let c := c.entered r (k.supply.stamp (k.stamps + 1))
        (.found (some c), (k.give 1 0).put (session, id) c))
  | .delete session id =>
    k.atKey session id
      (.deleted (k.find? (session, id)).isSome, k.without (· == (session, id)))
  | .clear session =>
    k.inSession session (.cleared (k.ofSession session).length, k.without (·.1 == session))
  | .context session id n =>
    k.atKey session id (.shown (((k.find? (session, id)).map (·.latest n)).getD []), k)
  | .exportAll session =>
    k.inSession session
      (.exported (Json.write .indented (Store.exportJson session (k.ofSession session))), k)

/-- Answers calls one after another and goes on behind a fault. -/
def answerEach : Catalog → List Call → List (Except Store.Fault Answer)
  | _, [] => []
  | k, c :: cs => (k.answer c).1 :: answerEach (k.answer c).2 cs

/-! ### Looking up -/

variable (k : Catalog) (key other : Text × Text) (c : Conversation) (gone : Text × Text → Bool)

/-- What is left is found as before, and what was taken out is not. -/
theorem find?_without :
  (k.without gone).find? key = if gone key then none else k.find? key
  := by
  have hfilter (es : List ((Text × Text) × Conversation)) :
      Entries.get? (es.filter fun e => !gone e.1) key
        = if gone key then none else Entries.get? es key := by
    induction es with
    | nil => simp
    | cons e es ih =>
        by_cases hgone : gone e.1 = true
        · rw [List.filter_cons_of_neg (by simp [hgone]), ih, Entries.get?_cons]
          by_cases hkey : e.1 = key
          · rw [← hkey, if_pos hgone, if_pos hgone]
          · rw [if_neg hkey]
        · rw [List.filter_cons_of_pos (by simpa using hgone), Entries.get?_cons, ih,
            Entries.get?_cons]
          by_cases hkey : e.1 = key
          · rw [← hkey, if_pos rfl, if_pos rfl, if_neg hgone]
          · rw [if_neg hkey, if_neg hkey]
  apply hfilter

/-- What was put under a key is found there, and everything else as before. -/
theorem find?_put :
  (k.put key c).find? other = if key = other then some c else k.find? other
  := by
  have hwithout := k.find?_without other (· == key)
  rw [find?] at hwithout
  rw [find?, put, Entries.get?_cons, hwithout]
  by_cases h : key = other
  · rw [if_pos h, if_pos h]
  · rw [if_neg h, if_neg h, if_neg (by simpa using Ne.symm h)]

/-- A conversation is listed for a session exactly when it is found under some key there. -/
theorem mem_ofSession_iff (session : Text) :
  c ∈ k.ofSession session ↔ ∃ id, k.find? (session, id) = some c
  := by
  have hmem (key : Text × Text) : k.find? key = some c ↔ (key, c) ∈ k.entries :=
    Entries.get?_eq_some_iff k.distinct
  simp only [ofSession, List.mem_map, List.mem_filter, beq_iff_eq, hmem]
  constructor
  · rintro ⟨⟨⟨session, id⟩, c⟩, ⟨he, rfl⟩, rfl⟩
    exact ⟨id, he⟩
  · rintro ⟨id, he⟩
    exact ⟨((session, id), c), ⟨he, rfl⟩, rfl⟩

end Catalog

/-! ### What calls touch -/

/-- Whether a call may change what stands under a key, where `fresh` is the next id. -/
def Call.touches (fresh : Text) : Call → Text × Text → Prop
  | create session _ _, key => key = (session, fresh)
  | update session id _, key => key = (session, id)
  | delete session id, key => key = (session, id)
  | clear session, key => key.1 = session
  | _, _ => False

namespace Catalog

variable {k : Catalog} {key : Text × Text}

/-- A session is answered for, or refused without a change. -/
theorem inSession_eq_or (k : Catalog) (session : Text) (f : Answer × Catalog) :
  k.inSession session f = (.ok f.1, f.2) ∨ ∃ fault, k.inSession session f = (.error fault, k)
  := by
  unfold inSession
  split
  · exact Or.inr ⟨_, rfl⟩
  · exact Or.inl rfl

/-- A conversation is answered for, or refused without a change. -/
theorem atKey_eq_or (k : Catalog) (session id : Text) (f : Answer × Catalog) :
  k.atKey session id f = (.ok f.1, f.2) ∨ ∃ fault, k.atKey session id f = (.error fault, k)
  := by
  unfold atKey
  split
  · exact Or.inr ⟨_, rfl⟩
  · split
    · exact Or.inr ⟨_, rfl⟩
    · exact Or.inl rfl

/-- What holds of a catalog holds behind an answer for a session, if it holds behind the answer
for a key. -/
theorem inSession_snd {P : Catalog → Prop} {session : Text} {f : Answer × Catalog} (hk : P k)
    (hf : P f.2) :
  P (k.inSession session f).2
  := by
  obtain h | ⟨fault, h⟩ := k.inSession_eq_or session f
  · rwa [h]
  · rwa [h]

theorem atKey_snd {P : Catalog → Prop} {session id : Text} {f : Answer × Catalog} (hk : P k)
    (hf : P f.2) :
  P (k.atKey session id f).2
  := by
  obtain h | ⟨fault, h⟩ := k.atKey_eq_or session id f
  · rwa [h]
  · rwa [h]

/-- A call leaves everything under the keys that it does not touch. -/
theorem find?_answer {call : Call} (h : ¬ call.touches (k.supply.id (k.ids + 1)) key) :
  (k.answer call).2.find? key = k.find? key
  := by
  cases call with
  | create session prompt title =>
      apply inSession_snd (k := k.give 1 1) (P := fun k' => k'.find? key = k.find? key) rfl
      rw [find?_put, if_neg (Ne.symm h)]
      rfl
  | get session id => apply atKey_snd (P := fun k' => k'.find? key = k.find? key) rfl rfl
  | list session => apply inSession_snd (P := fun k' => k'.find? key = k.find? key) rfl rfl
  | update session id r =>
      apply atKey_snd (P := fun k' => k'.find? key = k.find? key) rfl
      split
      · rfl
      · rw [find?_put, if_neg (Ne.symm h)]
        rfl
  | delete session id =>
      apply atKey_snd (P := fun k' => k'.find? key = k.find? key) rfl
      rw [find?_without, if_neg (by simpa [Call.touches] using h)]
  | clear session =>
      apply inSession_snd (P := fun k' => k'.find? key = k.find? key) rfl
      rw [find?_without, if_neg (by simpa [Call.touches] using h)]
  | context session id n => apply atKey_snd (P := fun k' => k'.find? key = k.find? key) rfl rfl
  | exportAll session => apply inSession_snd (P := fun k' => k'.find? key = k.find? key) rfl rfl

/-- A session that is refused leaves the catalog. -/
theorem inSession_of_error {session : Text} {f : Answer × Catalog} {fault : Store.Fault}
    (h : (k.inSession session f).1 = .error fault) :
  (k.inSession session f).2 = k
  := by
  obtain hok | ⟨fault, herror⟩ := k.inSession_eq_or session f
  · rw [hok] at h
    cases h
  · rw [herror]

/-- A conversation that is refused leaves the catalog. -/
theorem atKey_of_error {session id : Text} {f : Answer × Catalog} {fault : Store.Fault}
    (h : (k.atKey session id f).1 = .error fault) :
  (k.atKey session id f).2 = k
  := by
  obtain hok | ⟨fault, herror⟩ := k.atKey_eq_or session id f
  · rw [hok] at h
    cases h
  · rw [herror]

/-- A call that fails leaves all conversations, as they are and in their order. -/
theorem entries_answer_of_error {call : Call} {fault : Store.Fault}
    (h : (k.answer call).1 = .error fault) :
  (k.answer call).2.entries = k.entries
  := by
  cases call with
  | create session prompt title =>
      have hentries := congrArg entries (inSession_of_error (k := k.give 1 1) h)
      exact hentries
  | list session => exact congrArg entries (inSession_of_error h)
  | clear session => exact congrArg entries (inSession_of_error h)
  | exportAll session => exact congrArg entries (inSession_of_error h)
  | get session id => exact congrArg entries (atKey_of_error h)
  | update session id r => exact congrArg entries (atKey_of_error h)
  | delete session id => exact congrArg entries (atKey_of_error h)
  | context session id n => exact congrArg entries (atKey_of_error h)

/-- What an update gives is found behind it. -/
theorem find?_of_updated {session id : Text} {r : Revision} {found : Option Conversation}
    (h : (k.answer (.update session id r)).1 = .ok (.found found)) :
  (k.answer (.update session id r)).2.find? (session, id) = found
  := by
  rw [answer] at h ⊢
  obtain hok | ⟨fault, herror⟩ := k.atKey_eq_or session id _
  · rw [hok] at h ⊢
    cases hfind : k.find? (session, id) with
    | none =>
        rw [hfind] at h
        obtain rfl : none = found := by simpa using h
        exact hfind
    | some c =>
        rw [hfind] at h
        obtain rfl : some (c.entered r (k.supply.stamp (k.stamps + 1))) = found := by simpa using h
        apply (find?_put _ _ _ _).trans (if_pos rfl)
  · rw [herror] at h
    cases h

end Catalog

end BranchingStory
