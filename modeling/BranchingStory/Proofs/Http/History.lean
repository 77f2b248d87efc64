import BranchingStory.Proofs.Http.Effect

/-!
# Histories

Whatever requests are answered, a conversation that is not deleted keeps its names and what
happened in it, its threads only rise, and nothing happens in it any more once it has ended.
-/

namespace BranchingStory

namespace Http

variable {s : Store} {session id : Text} {c : Conversation}

/-! ### Runs of requests -/

/-- Requests leave a store tidy, and its supply as it is. -/
theorem isTidy_after (h : s.IsTidy) (rs : List Request) :
  (after s rs).IsTidy ∧ (after s rs).supply = s.supply
  := by
  induction rs generalizing s with
  | nil => exact ⟨h, rfl⟩
  | cons r rs ih =>
      have hstep := evolves_next h r
      obtain ⟨htidy, hsupply⟩ := ih (hstep.change.isTidy hstep.continues h)
      exact ⟨htidy, hsupply.trans hstep.continues.supply⟩

/-- Requests that do not take a conversation away let it grow. -/
theorem grows_after (h : s.IsTidy) (hids : Function.Injective s.supply.id)
    (hfind : Archive.find? s.disk session id = .ok (some c)) {rs : List Request}
    (hkept : ∀ r ∈ rs, ¬ r.Removes session id) :
  ∃ d, Archive.find? (after s rs).disk session id = .ok (some d) ∧ c.Grows d
  := by
  induction rs generalizing s c with
  | nil => exact ⟨c, hfind, .refl c⟩
  | cons r rs ih =>
      have hstep := evolves_next h r
      obtain ⟨d, hd, hgrows, -⟩ := hstep.change.find? hstep.continues hids h hfind
        (hkept r List.mem_cons_self)
      have hids' : Function.Injective (next s r).supply.id := by
        rw [hstep.continues.supply]
        exact hids
      obtain ⟨e, he, hgrows'⟩ := ih (hstep.change.isTidy hstep.continues h) hids' hd
        fun q hq => hkept q (List.mem_cons_of_mem _ hq)
      exact ⟨e, he, hgrows.trans hgrows'⟩

/-- A conversation that has ended is neither started nor goes on. -/
theorem statusOf_finished (h : s.IsTidy)
    (hfind : Archive.find? s.disk session id = .ok (some c)) (hc : c.finished = true)
    {r : Request} (hr : r.Plays session id) :
  statusOf s r ≠ 200
  := by
  obtain ⟨p, hp, hheld, hregular, rfl, rfl, -⟩ := h.of_find? hfind
  obtain hr | hr := hr
  · obtain ⟨problem, hrun, hfailure⟩ := run_serveStart_refused ⟨p, hheld⟩ hregular.storable
      hr.session fun hu => by
        rw [hu.finished] at hc
        cases hc
    exact (next_of_error hr hrun hfailure).2
  · obtain ⟨problem, hrun, hfailure⟩ := run_serveChoose_refused (r := r) ⟨p, hheld⟩
      hregular.storable hr.session fun choice _ hacc => by
        rw [hacc.notFinished] at hc
        cases hc
    exact (next_of_error hr hrun hfailure).2

/-- Whatever requests are answered by a service that starts without conversations, and whatever
of them none deletes a conversation or clears its session: it is still there, with the same
names; its segments, the choices that were taken and its completed threads were only added to,
and each thread is completed once; no thread has moved backwards; and if it had ended, it has
ended and its threads are as they were.  When it has ended, no start and no choice is answered
with success; and a choice that the next request notes as taken is one that was offered. -/
theorem history_grows (hempty : ∀ p, s.disk.hasFile p = true → p = Store.settingsPath)
    (hids : Function.Injective s.supply.id) {earlier rs : List Request}
    (hfind : Archive.find? (after s earlier).disk session id = .ok (some c))
    (hkept : ∀ r ∈ rs, ¬ r.Removes session id) :
  ∃ d, Archive.find? (after s (earlier ++ rs)).disk session id = .ok (some d)
    ∧ c.Grows d ∧ d.completed.Nodup
    ∧ (d.finished = true → ∀ r, r.Plays session id →
      statusOf (after s (earlier ++ rs)) r ≠ 200)
    ∧ ∀ r, ¬ r.Removes session id → ∃ e new,
      Archive.find? (next (after s (earlier ++ rs)) r).disk session id = .ok (some e)
      ∧ e.selected = d.selected ++ new ∧ ∀ t ∈ new, t ∈ d.choices.map (·.id)
  := by
  have hnew : s.IsTidy := fun p hp => Or.inl (hempty p hp)
  obtain ⟨hearlier, hsupply⟩ := isTidy_after hnew earlier
  rw [← hsupply] at hids
  have happend : after s (earlier ++ rs) = after (after s earlier) rs := List.foldl_append
  rw [happend]
  obtain ⟨d, hd, hgrows⟩ := grows_after hearlier hids hfind hkept
  obtain ⟨htidy, hsupply'⟩ := isTidy_after hearlier rs
  rw [← hsupply'] at hids
  obtain ⟨-, -, -, hregular, -⟩ := htidy.of_find? hd
  refine ⟨d, hd, hgrows, hregular.completed, fun hf r hr => statusOf_finished htidy hd hf hr, ?_⟩
  intro r hr
  have hstep := evolves_next htidy r
  obtain ⟨e, he, -, new, hselected, hoffered⟩ :=
    hstep.change.find? hstep.continues hids htidy hd hr
  exact ⟨e, new, he, hselected, hoffered⟩

/-- The request that creates a conversation of a session. -/
def createRequest (session prompt : Text) : Request where
  method := "POST"
  address := "/api/conversations"
  body := some (Json.write .compact
    (.obj [("initialPrompt", .str prompt), ("userSession", .str session)]))
  contentType := jsonType

/-- A supply whose ids are of different length. -/
def growingSupply : Supply where
  stamp n := decimalDigits n
  id n := List.replicate n 'a'

/-- A conversation that is created, and then started and continued. -/
theorem history_grows_continued :
  (∀ p, (Store.new (.text Fragment.prologue) growingSupply).disk.hasFile p = true →
      p = Store.settingsPath)
    ∧ Function.Injective (Store.new (.text Fragment.prologue) growingSupply).supply.id
    ∧ (∀ r ∈ [startRequest "player" "a", chooseRequest "player" "a" "talk_zhongli"],
      ¬ r.Removes "player" "a")
    ∧ ∃ c d, Archive.find? (after (Store.new (.text Fragment.prologue) growingSupply)
        [createRequest "player" "Hello"]).disk "player" "a" = .ok (some c)
      ∧ Archive.find? (after (Store.new (.text Fragment.prologue) growingSupply)
        [createRequest "player" "Hello", startRequest "player" "a",
          chooseRequest "player" "a" "talk_zhongli"]).disk "player" "a" = .ok (some d)
      ∧ c.Grows d ∧ d.completed.Nodup
  := by
  have hempty : ∀ p, (Store.new (.text Fragment.prologue) growingSupply).disk.hasFile p = true →
      p = Store.settingsPath := by
    intro p hp
    cases hp
  have hids : Function.Injective (Store.new (.text Fragment.prologue) growingSupply).supply.id :=
    fun n m h => by simpa [Store.new, growingSupply] using congrArg List.length h
  have hkey : Key.isKey "player" = true ∧ Key.isKey "a" = true := by decide
  have hkept : ∀ r ∈ [startRequest "player" "a", chooseRequest "player" "a" "talk_zhongli"],
      ¬ r.Removes "player" "a" := by
    have hstart := startRequest_asks hkey.1 hkey.2
    have hchoose := chooseRequest_asks hkey.1 hkey.2 "talk_zhongli"
    have hnot {r : Request} {e : Endpoint} (h : r.Asks e "player") (hd : e ≠ .delete "a")
        (hc : e ≠ .clear) : ¬ r.Removes "player" "a" := by
      rintro (h' | h')
      · exact hd (h.unique h')
      · exact hc (h.unique h')
    exact List.forall_mem_cons.mpr ⟨hnot hstart (by simp) (by simp),
      List.forall_mem_singleton.mpr (hnot hchoose (by simp) (by simp))⟩
  have hfound : (Archive.find? (after (Store.new (.text Fragment.prologue) growingSupply)
      [createRequest "player" "Hello"]).disk "player" "a").toOption.join.isSome = true := by
    decide +kernel
  obtain ⟨c, hc⟩ : ∃ c, Archive.find? (after (Store.new (.text Fragment.prologue) growingSupply)
      [createRequest "player" "Hello"]).disk "player" "a" = .ok (some c) := by
    revert hfound
    generalize Archive.find? _ _ _ = found
    rintro hfound
    obtain f | _ | c := found
    · cases hfound
    · cases hfound
    · exact ⟨c, rfl⟩
  obtain ⟨d, hd, hgrows, hnodup, -⟩ := history_grows hempty hids hc hkept
  exact ⟨hempty, hids, hkept, c, d, hc, hd, hgrows, hnodup⟩

end Http

end BranchingStory
