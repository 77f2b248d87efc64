import BranchingStory.Proofs.Client.Agreement

/-!
# Steps of a client that fail

What a client knows of the threads changes with the headers of a success and not before: a step
that fails earlier leaves it as it is, and a step whose body breaks off, or cannot be read, leaves
what the headers tell, as a step does that ends well: `Client.take_leaves`.
-/

namespace BranchingStory

namespace Client

/-! ### What headers tell -/

/-- The JSON value that a client reads of a header, if the header is there. -/
def readHeader (c : Client) (headers : List (Text × Text)) (name : Text) :
    Except Json.ReadFault (Option Json) :=
  (header? headers name).mapM (Json.readMerged c.room)

/-- The client that headers tell the state of the threads; a header that is not there leaves what
the client knows. -/
def told (c : Client) (headers : List (Text × Text)) (completed progress : Option Json) : Client :=
  { c with
    completed := completed.getD c.completed
    progress := progress.getD c.progress
    final := header? headers "x-story-final" == some "true" }

/-- How a step may leave a client that headers of a success were sent to, or no success: what the
step fails by, if it fails, and the client behind it. -/
inductive Leaves (c : Client) : Option (List (Text × Text)) → Option Fault → Client → Prop where
  /-- Without a success a step fails and the client stays. -/
  | unanswered {f : Fault} : Leaves c none (some f) c
  /-- At completed threads that are no JSON a step fails and the client stays. -/
  | completedMalformed {headers : List (Text × Text)} {f : Json.ReadFault}
    (hc : c.readHeader headers "x-completed-threads" = .error f) :
    Leaves c (some headers) (some (.header f)) c
  /-- At stages that are no JSON a step fails; the stages stay, and whether the story has ended. -/
  | progressMalformed {headers : List (Text × Text)} {completed : Option Json} {f : Json.ReadFault}
    {d : Client} (hc : c.readHeader headers "x-completed-threads" = .ok completed)
    (hp : c.readHeader headers "x-character-progress" = .error f)
    (hprogress : d.progress = c.progress) (hfinal : d.final = c.final) :
    Leaves c (some headers) (some (.header f)) d
  /-- Behind headers that were read the client knows what they tell, be it that the step fails in
  the body or that it does not fail. -/
  | told {headers : List (Text × Text)} {completed progress : Option Json} {fault : Option Fault}
    (hc : c.readHeader headers "x-completed-threads" = .ok completed)
    (hp : c.readHeader headers "x-character-progress" = .ok progress) :
    Leaves c (some headers) fault (c.told headers completed progress)

variable {c : Client} {headers : List (Text × Text)}

/-- At completed threads that are no JSON a client takes nothing from headers. -/
theorem adopt_of_completed_error {f : Json.ReadFault}
    (hc : c.readHeader headers "x-completed-threads" = .error f) :
  c.adopt headers = (.error (.header f), c)
  := by
  rw [readHeader] at hc
  rw [adopt, hc]

theorem adopt_of_progress_error {completed : Option Json} {f : Json.ReadFault}
    (hc : c.readHeader headers "x-completed-threads" = .ok completed)
    (hp : c.readHeader headers "x-character-progress" = .error f) :
  c.adopt headers = (.error (.header f), { c with completed := completed.getD c.completed })
  := by
  rw [readHeader] at hc hp
  rw [adopt, hc]
  simp only [hp]

/-- From headers that can be read a client takes what they tell. -/
theorem adopt_of_ok {completed progress : Option Json}
    (hc : c.readHeader headers "x-completed-threads" = .ok completed)
    (hp : c.readHeader headers "x-character-progress" = .ok progress) :
  c.adopt headers = (.ok (), c.told headers completed progress)
  := by
  rw [readHeader] at hc hp
  rw [adopt, hc]
  simp only [hp]
  rfl

/-! ### Replies -/

/-- The headers of a reply that is a success. -/
def Reply.success? (asked : Url) : Reply → Option (List (Text × Text))
  | .lost _ => none
  | .response status headers _ =>
    match checkResponse asked status headers with
    | .error _ => none
    | .ok _ => some headers

/-- A reply leaves a client by its headers, if it is a success; the body and the parser do not
matter. -/
theorem receive_leaves (c : Client) (p : Parser) (fallback : Bool) (asked : Url) (reply : Reply) :
  c.Leaves (reply.success? asked) (c.receive p fallback asked reply).1.fault
    (c.receive p fallback asked reply).2
  := by
  cases reply with
  | lost l => exact .unanswered
  | response status headers body =>
      rw [receive, Reply.success?]
      cases checkResponse asked status headers with
      | error f => exact .unanswered
      | ok =>
          cases hc : c.readHeader headers "x-completed-threads" with
          | error f =>
              rw [adopt_of_completed_error hc]
              exact .completedMalformed hc
          | ok completed =>
              cases hp : c.readHeader headers "x-character-progress" with
              | error f =>
                  rw [adopt_of_progress_error hc hp]
                  exact .progressMalformed hc hp rfl rfl
              | ok progress =>
                  rw [adopt_of_ok hc hp]
                  exact .told hc hp

/-! ### Steps -/

/-- The headers of the success that answers a step, if a success does. -/
def answered {σ : Type} (send : Request → StateM σ Reply) (c : Client) (step : Step) (s : σ) :
    Option (List (Text × Text)) :=
  match c.request step with
  | .error _ => none
  | .ok r => ((send r).run s).1.success? r.url

/-- Whatever a client knows, whatever its parser was fed, and whatever a server sends: a step that
fails before the headers of a success came leaves what the client knows of the threads, and one
that fails behind them leaves what they tell. -/
theorem take_leaves {σ : Type} (send : Request → StateM σ Reply) (c : Client) (p : Parser)
    (step : Step) (s : σ) :
  let got := ((c.take send p step).run s).1
  c.Leaves (c.answered send step s) got.1.fault got.2
  := by
  intro got
  cases hr : c.request step with
  | error f =>
      have hgot : got = (⟨[], some f, p.reset⟩, c) := by
        simp only [got, take, hr]
        rfl
      rw [hgot, answered, hr]
      exact .unanswered
  | ok r =>
      have hgot : got
          = c.receive p.reset (step == .opening) r.url ((send r).run s).1 := by
        simp only [got, run_take hr (Prod.ext rfl rfl)]
      rw [hgot, answered, hr]
      apply receive_leaves

/-- A success whose body breaks off. -/
def brokenOff : Reply :=
  .response 200 [("X-Completed-Threads", "[\"lumine\"]"), ("X-Story-Final", "true")]
    [.lost (.transport "gone")]

/-- A step that fails in the body leaves another client. -/
theorem take_broken_off :
  let got := (((new .least testBase).take (fun _ => (pure brokenOff : StateM Unit Reply))
    (.new Parser.defaultLimit Parser.defaultChoices) .opening).run ()).1
  got.1.fault = some (.lost (.transport "gone"))
    ∧ (new .least testBase).final = false ∧ got.2.final = true
    ∧ Json.write .compact (new .least testBase).completed = "[]"
    ∧ Json.write .compact got.2.completed = "[\"lumine\"]"
  := by
  decide +kernel

end Client

end BranchingStory
