import BranchingStory.Proofs.Narrative.Restore
import BranchingStory.Proofs.Text.Numeral
import BranchingStory.Terminal.Play

/-!
# Games on a terminal

Whatever lines a player types, every one of them answers a question that shows the choices of the
current step, and has one of four outcomes: the game is left, an enabled choice is taken under the
number that was typed, the player is asked again, or the game breaks off because the line looks
like a number and is none.  A game that begins with the opening ends in no other way:
`Terminal.play_survives`.
-/

namespace BranchingStory

namespace Terminal

/-! ### Questions and answers -/

/-- What a player is asked: everything put out so far, the session and its choices. -/
structure Question where
  output : List Output
  session : Session
  choices : List Choice

/-- The questions that come up from a view, behind what was put out before it, with the lines that
answer them. -/
def questionsFrom (pause : Binary64) (before : List Output) :
    View → List Text → List (Question × Text)
  | ⟨output, .asking s choices⟩, line :: lines =>
    (⟨before ++ output, s, choices⟩, line)
      :: questionsFrom pause (before ++ output) (answer pause s choices line) lines
  | _, _ => []

/-- Whether a player leaves with a line. -/
def Leaves (line : Text) : Prop :=
  Text.lower (Text.trim line) ∈ leaveWords

/-- Whether a line looks like a number and is none. -/
def Breaks (line : Text) : Prop :=
  ¬ Leaves line ∧ Numeral.Unreadable (Text.trim line)

/-- A question about the choices of the current step, one of which is enabled; behind their lines
nothing but prompts was put out. -/
structure Question.IsPut (q : Question) : Prop where
  whole : q.session.chunkSize = none
  current : q.choices = q.session.parser.choices
  enabled : ∃ c ∈ q.choices, c.disabled = false
  shown : ∃ front n,
    q.output = front ++ .printed ('\n' :: choiceLines 1 q.choices) :: List.replicate (n + 1) prompt

/-- What an answer to a question leads to. -/
inductive Reaction (pause : Binary64) (q : Question) (line : Text) : View → Prop where
  /-- The player leaves. -/
  | leaves (h : Leaves line) : Reaction pause q line ⟨[], .closed⟩
  /-- The enabled choice of the number that was typed is taken. -/
  | takes {n : Nat} {c : Choice} {turn : Turn} {s : Session} (h : ¬ Leaves line)
      (hbreaks : ¬ Breaks line) (hwrites : Numeral.Writes (Text.trim line) n) (hpos : 1 ≤ n)
      (hc : q.choices[n - 1]? = some c) (henabled : c.disabled = false)
      (hchoose : q.session.choose c.id = (.ok turn, s)) :
      Reaction pause q line ((showTurn pause turn s).after [.printed ['\n']])
  /-- The line is no number of an enabled choice. -/
  | asksAgain (h : ¬ Leaves line) (hbreaks : ¬ Breaks line)
      (hnone : ∀ n c, Numeral.Writes (Text.trim line) n → 1 ≤ n → q.choices[n - 1]? = some c →
        c.disabled = true) :
      Reaction pause q line ⟨[prompt], .asking q.session q.choices⟩
  /-- The game breaks off. -/
  | breaksOff (f : Numeral.Fault) (h : Breaks line) :
      Reaction pause q line ⟨[], .broken (.numeral f)⟩

/-- How a game ends that was played with answers to questions. -/
inductive Game.Ends (asked : List (Question × Text)) (game : Game) : Prop where
  /-- The story is over, or the player has left. -/
  | closed (h : game.ending = .closed) (hasked : ∀ e ∈ asked, ¬ Breaks e.2)
  /-- All lines were taken. -/
  | outOfAnswers (h : game.ending = .outOfAnswers) (hunread : game.unread = [])
      (hasked : ∀ e ∈ asked, ¬ Breaks e.2)
  /-- The last line that was taken broke it off. -/
  | brokenOff (f : Numeral.Fault) (h : game.ending = .broken (.numeral f))
      (hasked : ∃ q line, asked.getLast? = some (q, line) ∧ Breaks line)

variable {pause : Binary64} {q : Question} {line : Text}

/-! ### What is picked -/

/-- What is picked with a word of digit-like characters that is read as a number. -/
theorem picked_of_read (choices : List Choice) {word : Text} {n : Nat} (hne : word ≠ [])
    (hlike : ∀ c ∈ word, isDigitLike c = true)
    (hread : Numeral.read word = .ok (Int.ofNat n)) :
  picked choices word
    = .ok (if 1 ≤ n then choices[n - 1]?.filter fun c => !c.disabled else none)
  := by
  have hguard : ¬ (word.isEmpty || !word.all isDigitLike) = true := by simpa [hne] using hlike
  rw [picked, if_neg hguard, hread]
  apply congrArg Except.ok
  have hbounds : (1 ≤ Int.ofNat n ∧ Int.ofNat n ≤ (choices.length : Int))
      ↔ (1 ≤ n ∧ n ≤ choices.length) := by
    simp only [Int.ofNat_eq_natCast]
    omega
  dsimp only
  rw [if_congr hbounds rfl rfl, Int.ofNat_eq_natCast, Int.toNat_natCast]
  by_cases hpos : 1 ≤ n
  · by_cases hle : n ≤ choices.length
    · rw [if_pos ⟨hpos, hle⟩, if_pos hpos]
    · rw [if_neg fun h => hle h.2, if_pos hpos, List.getElem?_eq_none (by omega)]
      rfl
  · rw [if_neg fun h => hpos h.1, if_neg hpos]

/-- Among choices a word is unreadable, or no number of an enabled choice, or the number of the
one that it picks. -/
theorem picked_cases (choices : List Choice) (word : Text) :
  (Numeral.Unreadable word ∧ ∃ f, picked choices word = .error f)
    ∨ (¬ Numeral.Unreadable word ∧ picked choices word = .ok none
      ∧ ∀ n c, Numeral.Writes word n → 1 ≤ n → choices[n - 1]? = some c → c.disabled = true)
    ∨ (¬ Numeral.Unreadable word ∧ ∃ n c, Numeral.Writes word n ∧ 1 ≤ n
      ∧ choices[n - 1]? = some c ∧ c.disabled = false ∧ picked choices word = .ok (some c))
  := by
  by_cases hlike : word ≠ [] ∧ ∀ c ∈ word, isDigitLike c = true
  · obtain ⟨hne, hlike⟩ := hlike
    obtain ⟨n, hn, hreadable, hread⟩ | ⟨hunreadable, f, hread⟩ := Numeral.read_cases hne hlike
    · have hpicked := picked_of_read choices hne hlike hread
      cases hpick : if 1 ≤ n then choices[n - 1]?.filter fun c => !c.disabled else none with
      | none =>
          right
          left
          rw [hpick] at hpicked
          refine ⟨hreadable, hpicked, ?_⟩
          intro m c hm hpos hc
          obtain rfl := hm.unique hn
          rw [if_pos hpos, hc] at hpick
          simpa [Option.filter] using hpick
      | some c =>
          right
          right
          rw [hpick] at hpicked
          split_ifs at hpick with hpos
          obtain ⟨hc, henabled⟩ := Option.filter_eq_some_iff.mp hpick
          exact ⟨hreadable, n, c, hn, hpos, hc, by simpa using henabled, hpicked⟩
    · left
      have hguard : ¬ (word.isEmpty || !word.all isDigitLike) = true := by
        simpa [hne] using hlike
      refine ⟨hunreadable, f, ?_⟩
      rw [picked, if_neg hguard, hread]
      rfl
  · right
    left
    have hguard : (word.isEmpty || !word.all isDigitLike) = true := by
      by_cases hne : word = []
      · simp [hne]
      · simpa [hne] using hlike
    refine ⟨?_, ?_, ?_⟩
    · rintro ⟨hne, hall, -⟩
      exact hlike ⟨hne, hall⟩
    · rw [picked, if_pos hguard]
    · intro n c hwrites
      exact absurd ⟨hwrites.ne_nil, hwrites.isDigitLike⟩ hlike

/-! ### What is shown -/

/-- What a view is behind the output before it, unless the game broke off: it asks a question, or
the game is over. -/
inductive View.Stands (before : List Output) : View → Prop where
  | asking {output : List Output} {s : Session} {choices : List Choice}
      (h : Question.IsPut ⟨before ++ output, s, choices⟩) :
      Stands before ⟨output, .asking s choices⟩
  | closed (output : List Output) : Stands before ⟨output, .closed⟩

/-- A view that stands behind some output is the one that the output leads to. -/
theorem View.Stands.after {before output : List Output} {v : View}
    (h : v.Stands (before ++ output)) :
  (v.after output).Stands before
  := by
  cases h with
  | asking h =>
      apply View.Stands.asking
      rwa [← List.append_assoc]
  | closed => apply View.Stands.closed

/-- When the pause can be made, segments are typed out to their end. -/
theorem typeOut_snd (hpause : Pause.fault? pause = none) (ss : List Segment) :
  (typeOut pause ss).2 = none
  := by
  induction ss with
  | nil => rfl
  | cons s ss ih =>
      rw [typeOut, hpause]
      cases s.line <;> exact ih

/-- A turn that a session is at asks for its choices, or the story is over with it. -/
theorem showTurn_stands (hpause : Pause.fault? pause = none) (before : List Output)
    {turn : Turn} {s : Session} (hwhole : s.chunkSize = none)
    (hcurrent : turn.choices = s.parser.choices) :
  (showTurn pause turn s).Stands before
  := by
  have htyped := typeOut_snd hpause turn.segments
  cases htypeOut : typeOut pause turn.segments with
  | mk output fault =>
      rw [htypeOut] at htyped
      obtain rfl : fault = none := htyped
      simp only [showTurn, htypeOut]
      split_ifs with hover
      · apply View.Stands.closed
      · apply View.Stands.asking
        refine ⟨hwhole, hcurrent, ?_, before ++ output, 0, ?_⟩
        · simp only [Bool.or_eq_true, not_or, List.all_eq_true, not_forall] at hover
          obtain ⟨-, c, hc, henabled⟩ := hover
          exact ⟨c, hc, by simpa using henabled⟩
        · simp

/-- A turn that offers something asks for its choices while the story goes on. -/
theorem showTurn_asks (hpause : Pause.fault? pause = none) {turn : Turn} {s : Session}
    (hopen : s.finished = false) (henabled : turn.choices.all Choice.disabled = false) :
  ∃ output, showTurn pause turn s = ⟨output, .asking s turn.choices⟩
  := by
  have htyped := typeOut_snd hpause turn.segments
  cases htypeOut : typeOut pause turn.segments with
  | mk output fault =>
      rw [htypeOut] at htyped
      obtain rfl : fault = none := htyped
      simp only [showTurn, htypeOut, hopen, henabled, Bool.or_false, Bool.false_eq_true, if_false]
      exact ⟨_, rfl⟩

/-! ### A step -/

/-- Every line that answers a question has one of the four outcomes. -/
theorem answer_reaction (pause : Binary64) (hq : q.IsPut) (line : Text) :
  Reaction pause q line (answer pause q.session q.choices line)
  := by
  rw [answer]
  by_cases hleaves : Leaves line
  · rw [if_pos (List.elem_iff.mpr hleaves)]
    exact .leaves hleaves
  · rw [if_neg fun h => hleaves (List.elem_iff.mp h)]
    obtain ⟨hunreadable, f, hpicked⟩ | ⟨hreadable, hpicked, hnone⟩
        | ⟨hreadable, n, c, hwrites, hpos, hc, henabled, hpicked⟩ :=
      picked_cases q.choices (Text.trim line)
    · rw [hpicked]
      exact .breaksOff f ⟨hleaves, hunreadable⟩
    · rw [hpicked]
      exact .asksAgain hleaves (fun h => hreadable h.2) hnone
    · obtain ⟨script, s, -, -, hchoose, -⟩ := Session.choose_turn hq.whole c.id
      rw [hpicked]
      simp only [hchoose, showStep]
      exact .takes hleaves (fun h => hreadable h.2) hwrites hpos hc henabled hchoose

/-- Unless the game breaks off, what an answer leads to stands again. -/
theorem Reaction.stands (hpause : Pause.fault? pause = none) (hq : q.IsPut) {v : View}
    (h : Reaction pause q line v) :
  (¬ Breaks line ∧ v.Stands q.output) ∨ (Breaks line ∧ ∃ f, v = ⟨[], .broken (.numeral f)⟩)
  := by
  cases h with
  | leaves h => exact Or.inl ⟨fun hbreaks => hbreaks.1 h, .closed _⟩
  | @takes n c turn s _ hbreaks _ _ _ _ hchoose =>
      refine Or.inl ⟨hbreaks, ?_⟩
      apply View.Stands.after
      apply showTurn_stands hpause
      · obtain ⟨_, _, -, -, hturn, hlike, -⟩ := Session.choose_turn hq.whole c.id
        rw [hchoose] at hturn
        cases hturn
        exact hlike.chunkSize.trans hq.whole
      · exact Session.current_of_begin hchoose
  | asksAgain _ hbreaks _ =>
      refine Or.inl ⟨hbreaks, ?_⟩
      obtain ⟨front, n, hshown⟩ := hq.shown
      apply View.Stands.asking
      refine ⟨hq.whole, hq.current, hq.enabled, front, n + 1, ?_⟩
      dsimp only
      rw [hshown, List.replicate_succ' (n := n + 1), List.append_assoc, List.cons_append]
  | breaksOff f h => exact Or.inr ⟨h, f, rfl⟩

/-! ### A game -/

variable {before : List Output} {v : View}

/-- Behind a game that broke off nothing is asked. -/
theorem questionsFrom_broken (before output : List Output) (f : Fault) (lines : List Text) :
  questionsFrom pause before ⟨output, .broken f⟩ lines = []
  := by
  cases lines <;> rfl

/-- Every line of a game answers a question or is not taken. -/
theorem questionsFrom_lines (pause : Binary64) (before : List Output) (v : View)
    (lines : List Text) :
  (questionsFrom pause before v lines).map Prod.snd ++ (playOn pause v lines).unread = lines
  := by
  induction lines generalizing before v with
  | nil =>
      obtain ⟨output, _ | _ | _⟩ := v
      · rfl
      · rfl
      · rfl
  | cons line lines ih =>
      obtain ⟨output, ⟨s, choices⟩ | _ | _⟩ := v
      · exact congrArg (line :: ·) (ih _ _)
      · rfl
      · rfl

/-- What was put out before a question of a game is the beginning of what the game puts out. -/
theorem questionsFrom_output {lines : List Text}
    (h : (q, line) ∈ questionsFrom pause before v lines) :
  q.output <+: before ++ (playOn pause v lines).output
  := by
  induction lines generalizing before v with
  | nil =>
      obtain ⟨output, _ | _ | _⟩ := v
      · cases h
      · cases h
      · cases h
  | cons line lines ih =>
      obtain ⟨output, ⟨s, choices⟩ | _ | _⟩ := v
      · rw [playOn, ← List.append_assoc]
        obtain heq | h := List.mem_cons.mp h
        · cases heq
          apply List.prefix_append
        · exact ih h
      · cases h
      · cases h

/-- Every question of a game is put, and what the line that answers it leads to is one of the four
outcomes. -/
theorem questionsFrom_reaction (hpause : Pause.fault? pause = none) (hv : v.Stands before)
    {lines : List Text} (h : (q, line) ∈ questionsFrom pause before v lines) :
  q.IsPut ∧ Reaction pause q line (answer pause q.session q.choices line)
  := by
  induction lines generalizing before v with
  | nil =>
      cases hv with
      | asking hq => cases h
      | closed => cases h
  | cons line lines ih =>
      cases hv with
      | closed => cases h
      | asking hq =>
          have hreaction := answer_reaction pause hq line
          obtain heq | h := List.mem_cons.mp h
          · cases heq
            exact ⟨hq, hreaction⟩
          · obtain ⟨-, hstands⟩ | ⟨-, f, hbroken⟩ := hreaction.stands hpause hq
            · exact ih hstands h
            · rw [hbroken, questionsFrom_broken] at h
              cases h

theorem playOn_ends (hpause : Pause.fault? pause = none) (hv : v.Stands before)
    (lines : List Text) :
  (playOn pause v lines).Ends (questionsFrom pause before v lines)
  := by
  induction lines generalizing before v with
  | nil =>
      cases hv with
      | asking hq => exact .outOfAnswers rfl rfl (by simp [questionsFrom])
      | closed => exact .closed rfl (by simp [questionsFrom])
  | cons line lines ih =>
      cases hv with
      | closed => exact .closed rfl (by simp [questionsFrom])
      | asking hq =>
          rw [playOn, questionsFrom]
          obtain ⟨hbreaks, hstands⟩ | ⟨hbreaks, f, hbroken⟩ :=
            (answer_reaction pause hq line).stands hpause hq
          · cases ih hstands with
            | closed h hasked => exact .closed h (List.forall_mem_cons.mpr ⟨hbreaks, hasked⟩)
            | outOfAnswers h hunread hasked =>
                exact .outOfAnswers h hunread (List.forall_mem_cons.mpr ⟨hbreaks, hasked⟩)
            | brokenOff f h hasked =>
                obtain ⟨q, last, hlast, hbreaks⟩ := hasked
                refine .brokenOff f h ⟨q, last, ?_, hbreaks⟩
                rw [List.getLast?_cons, hlast]
                rfl
          · dsimp only at hbroken
            rw [hbroken, questionsFrom_broken]
            refine .brokenOff f ?_ ⟨_, line, rfl, hbreaks⟩
            rw [playOn]

/-- A story starts with what its first turn shows. -/
theorem start_eq {settings : Settings} {opening : Text} {turn : Turn} {s : Session}
    (hpause : Pause.ofJson settings.delay = .ok pause)
    (hbegin : (Session.new [] [] settings.limit none).begin opening false = (.ok turn, s)) :
  start settings opening = .ok (pause, showTurn pause turn s)
  := by
  rw [start, hpause]
  simp only [hbegin, showStep]

/-- A game with the settings there are when nothing is stored begins with the opening of the story
and asks for one of the choices behind it. -/
theorem start_defaults :
  ∃ pause output s choices,
    start Settings.defaults Fragment.prologue = .ok (pause, ⟨output, .asking s choices⟩)
      ∧ Pause.fault? pause = none ∧ View.Stands [] ⟨output, .asking s choices⟩
  := by
  obtain ⟨turn, s, hbegin, hchoices⟩ := Session.begin_prologue
    (s := .new [] [] Settings.defaults.limit none) rfl rfl
  have hset : s.IsSetUp Settings.defaults.limit none := by
    have h := (Session.isSetUp_new [] [] Settings.defaults.limit none).begin
      Fragment.prologue false
    rwa [hbegin] at h
  have hopen : s.finished = false := by
    have h := Session.finished_begin (.new [] [] Settings.defaults.limit none)
      Fragment.prologue false
    rwa [hbegin] at h
  have henabled : turn.choices.all Choice.disabled = false := by
    rw [hchoices]
    decide
  obtain ⟨pause, hpause, hfault⟩ : ∃ pause, Pause.ofJson Settings.defaults.delay = .ok pause
      ∧ Pause.fault? pause = none := ⟨_, rfl, by decide +kernel⟩
  obtain ⟨output, hshow⟩ := showTurn_asks hfault hopen henabled
  refine ⟨pause, output, s, turn.choices, ?_, hfault, ?_⟩
  · rw [start_eq hpause hbegin, hshow]
  · rw [← hshow]
    apply showTurn_stands hfault [] hset.chunkSize
    exact Session.current_of_begin hbegin

/-- A game with the settings there are when nothing is stored, played with any lines.  Every line
that is taken answers a question about the choices that were shown last, and has one of the four
outcomes: only enabled choices are taken, under the number that was typed.  The game is played to
its end or until the lines run out, unless a line that is asked for looks like a number and is
none; that line breaks it off, and nothing else does. -/
theorem play_survives (lines : List Text) :
  ∃ pause v, start Settings.defaults Fragment.prologue = .ok (pause, v)
    ∧ let game := play Settings.defaults Fragment.prologue lines
      let asked := questionsFrom pause [] v lines
      asked.map Prod.snd ++ game.unread = lines
        ∧ (∀ q line, (q, line) ∈ asked → q.IsPut ∧ q.output <+: game.output
          ∧ Reaction pause q line (answer pause q.session q.choices line))
        ∧ game.Ends asked
  := by
  obtain ⟨pause, output, s, choices, hstart, hpause, hv⟩ := start_defaults
  refine ⟨pause, _, hstart, ?_⟩
  rw [play, hstart]
  refine ⟨questionsFrom_lines pause [] _ lines, ?_, playOn_ends hpause hv lines⟩
  intro q line h
  obtain ⟨hput, hreaction⟩ := questionsFrom_reaction hpause hv h
  exact ⟨hput, questionsFrom_output h, hreaction⟩

/-- A superscript two looks like a number and is none, so it breaks a game off. -/
theorem play_superscript :
  (play Settings.defaults Fragment.prologue ["²"]).ending
    = .broken (.numeral (.malformed "²"))
  := by
  obtain ⟨pause, output, s, choices, hstart, -⟩ := start_defaults
  rw [play, hstart]
  rfl

end Terminal

end BranchingStory
