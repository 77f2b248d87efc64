import BranchingStory.Proofs.Markup.Extension

/-!
# One step of the scanner

`Sight.of` says what the scanner meets first from a cursor on: nothing that is finished
yet, a block whose name is not regular, an opening that is passed over, or a finished
block.  Whatever is met stays the first thing met when text arrives at the end, so the
scan of a longer text is the scan of the shorter one, gone on with from what it left.
-/

namespace BranchingStory

/-- What the scanner meets first. -/
inductive Sight where
  /-- Nothing that could be decided without more text. -/
  | waits
  /-- A block whose name is not regular. -/
  | irregular
  /-- An opening that is passed over, with the text behind its name. -/
  | passes (rest : Text)
  /-- A finished block, with the text behind it. -/
  | finishes (b : Block) (rest : Text)

namespace Sight

/-- What is met with the body behind the tag of an opener. -/
def ofBody (o : Opener) (attributes : Text) : Ending → Sight
  | .interrupted => passes o.rest
  | .unfinished => waits
  | .closed inner closing rest =>
    finishes ⟨o.kind, '<' :: o.spelling ++ attributes ++ ['>'], inner, closing⟩ rest

/-- What is met at an opener. -/
def ofOpener (o : Opener) : Sight :=
  match Text.cutAt? '>' o.rest with
  | none => waits
  | some (attributes, body) =>
    if attributes.contains '<' then passes o.rest
    else if !o.isRegular then irregular
    else ofBody o attributes (Ending.of o.kind body)

/-- What is met first from a cursor on. -/
def of (cursor : Text) : Sight :=
  match Opener.find? cursor with
  | none => waits
  | some o => ofOpener o

/-- The sight with more text behind it. -/
def extend (u : Text) : Sight → Sight
  | passes rest => passes (rest ++ u)
  | finishes b rest => finishes b (rest ++ u)
  | s => s

/-- What was met with a body is met when text arrives. -/
theorem ofBody_append {o : Opener} {attributes body : Text}
    (h : ofBody o attributes (Ending.of o.kind body) ≠ waits) (u : Text) :
  ofBody (o.extend u) attributes (Ending.of o.kind (body ++ u))
    = (ofBody o attributes (Ending.of o.kind body)).extend u
  := by
  have hu : Ending.of o.kind body ≠ .unfinished := by
    intro he
    apply h
    rw [he]
    rfl
  rw [Ending.of_append hu u]
  cases he : Ending.of o.kind body with
  | closed inner closing rest => rfl
  | interrupted => rfl
  | unfinished => exact absurd he hu

/-- What was met at an opener is met when text arrives. -/
theorem ofOpener_append {o : Opener} (h : ofOpener o ≠ waits) (u : Text) :
  ofOpener (o.extend u) = (ofOpener o).extend u
  := by
  simp only [ofOpener] at h ⊢
  cases hc : Text.cutAt? '>' o.rest with
  | none => simp [hc] at h
  | some p =>
      obtain ⟨attributes, body⟩ := p
      have hc' : Text.cutAt? '>' (o.extend u).rest = some (attributes, body ++ u) :=
        Text.cutAt?_append hc u
      have hr : (o.extend u).isRegular = o.isRegular := rfl
      simp only [hc, hc', hr] at h ⊢
      split_ifs at h ⊢ with hl hi
      · rfl
      · rfl
      · apply ofBody_append h

/-- What was met first is met first when text arrives. -/
theorem of_append {cursor : Text} (h : of cursor ≠ waits) (u : Text) :
  of (cursor ++ u) = (of cursor).extend u
  := by
  simp only [of] at h ⊢
  cases ho : Opener.find? cursor with
  | none => simp [ho] at h
  | some o =>
      rw [Opener.find?_append ho u]
      simp only [ho] at h
      apply ofOpener_append h

/-- An opener that is passed over is passed over up to the end of its name. -/
theorem rest_of_passes {o : Opener} {rest : Text} (h : ofOpener o = passes rest) :
  rest = o.rest
  := by
  simp only [ofOpener] at h
  split at h
  · simp at h
  · next attributes body hc =>
    split_ifs at h
    · cases h
      rfl
    · cases he : Ending.of o.kind body <;> simp only [he, ofBody, reduceCtorEq] at h
      cases h
      rfl

/-- Behind an opening that is passed over less text is left. -/
theorem length_of_passes {cursor rest : Text} (h : of cursor = passes rest) :
  rest.length < cursor.length
  := by
  simp only [of] at h
  split at h
  · simp at h
  · next o ho =>
    rw [rest_of_passes h]
    apply Opener.find?_length ho

/-- Behind a finished block less text is left. -/
theorem length_of_finishes {cursor rest : Text} {b : Block} (h : of cursor = finishes b rest) :
  rest.length < cursor.length
  := by
  simp only [of, ofOpener] at h
  split at h
  · simp at h
  · next o ho =>
    have hl := Opener.find?_length ho
    split at h
    · simp at h
    · next attributes body hc =>
      split_ifs at h
      cases he : Ending.of o.kind body <;> simp only [he, ofBody, reduceCtorEq] at h
      cases h
      have h₁ := Text.cutAt?_length hc
      have h₂ := Ending.of_closed_length he
      omega

end Sight

/-! ### Scans -/

namespace Scan

/-- The scan with blocks found before it. -/
def after (s : Scan) (blocks : List Block) : Scan :=
  { s with blocks := blocks ++ s.blocks }

@[simp]
theorem after_nil (s : Scan) :
  s.after [] = s
  := rfl

@[simp]
theorem after_after (s : Scan) (bs cs : List Block) :
  (s.after bs).after cs = s.after (cs ++ bs)
  := by
  simp [after]

end Scan

namespace Block

/-- A scan goes on by what it meets first. -/
theorem scanFrom_eq (kept cursor : Text) :
  scanFrom kept cursor =
    match Sight.of cursor with
    | .waits => ⟨[], kept, false⟩
    | .irregular => ⟨[], kept, true⟩
    | .passes rest => scanFrom kept rest
    | .finishes b rest => (scanFrom rest rest).after [b]
  := by
  rw [scanFrom]
  simp only [Sight.of, Sight.ofOpener]
  cases Opener.find? cursor with
  | none => rfl
  | some o =>
      dsimp only
      cases Text.cutAt? '>' o.rest with
      | none => rfl
      | some p =>
          dsimp only
          split_ifs
          · rfl
          · rfl
          · cases Ending.of o.kind p.2 <;> rfl

/-- A cursor is reached from a text by passing over openings only. -/
inductive Reached (t : Text) : Text → Prop where
  | start : Reached t t
  | pass {cursor rest : Text} (h : Reached t cursor) (hp : Sight.of cursor = .passes rest) :
    Reached t rest

/-- A scan may begin anew before the openings that were passed over, also when text has
arrived since. -/
theorem Reached.scanFrom_append {t cursor : Text} (h : Reached t cursor) (kept u : Text) :
  scanFrom kept (cursor ++ u) = scanFrom kept (t ++ u)
  := by
  induction h with
  | start => rfl
  | @pass cursor rest _ hp ih =>
      rw [← ih, scanFrom_eq kept (cursor ++ u), Sight.of_append (by simp [hp]) u, hp]
      rfl

/-- Scanning a longer text is scanning the shorter one, and then what it left with the
text that arrived. -/
theorem scanFrom_append {kept cursor : Text} (h : Reached kept cursor) (u : Text) :
  scanFrom (kept ++ u) (cursor ++ u)
    = (scan ((scanFrom kept cursor).rest ++ u)).after (scanFrom kept cursor).blocks
  := by
  induction hn : cursor.length using Nat.strongRecOn generalizing kept cursor with
  | ind n ih =>
      subst hn
      rw [scanFrom_eq kept cursor]
      cases hs : Sight.of cursor with
      | waits => apply h.scanFrom_append
      | irregular => apply h.scanFrom_append
      | passes rest =>
          rw [scanFrom_eq, Sight.of_append (by simp [hs]) u, hs]
          apply ih _ (Sight.length_of_passes hs) (h.pass hs) rfl
      | finishes b rest =>
          rw [scanFrom_eq, Sight.of_append (by simp [hs]) u, hs]
          have hr := ih _ (Sight.length_of_finishes hs) (Reached.start (t := rest)) rfl
          simp only [Sight.extend, hr, Scan.after_after]
          rfl

/-- The scan of a text that grew. -/
theorem scan_append (t u : Text) :
  scan (t ++ u) = (scan ((scan t).rest ++ u)).after (scan t).blocks
  := scanFrom_append Reached.start u

/-- Nothing is finished in what a scan left. -/
theorem scan_rest (t : Text) :
  scan (scan t).rest = ⟨[], (scan t).rest, (scan t).irregular⟩
  := by
  have h : scan t = (scan (scan t).rest).after (scan t).blocks := by
    simpa only [List.append_nil] using scan_append t []
  have hblocks : (scan t).blocks = (scan t).blocks ++ (scan (scan t).rest).blocks :=
    congrArg (·.blocks) h
  have hrest : (scan t).rest = (scan (scan t).rest).rest := congrArg (·.rest) h
  have hirregular : (scan t).irregular = (scan (scan t).rest).irregular :=
    congrArg (·.irregular) h
  generalize scan (scan t).rest = again at hblocks hrest hirregular ⊢
  rw [hrest, hirregular, ← List.self_eq_append_right.mp hblocks]

/-- A name that is not regular stays so when more text arrives. -/
theorem scanFrom_irregular {kept cursor : Text} (h : (scanFrom kept cursor).irregular = true)
    (kept' u : Text) :
  (scanFrom kept' (cursor ++ u)).irregular = true
  := by
  induction hn : cursor.length using Nat.strongRecOn generalizing kept kept' cursor with
  | ind n ih =>
      subst hn
      rw [scanFrom_eq] at h
      cases hs : Sight.of cursor with
      | waits =>
          rw [hs] at h
          cases h
      | irregular =>
          rw [scanFrom_eq, Sight.of_append (by simp [hs]) u, hs]
          rfl
      | passes rest =>
          rw [hs] at h
          rw [scanFrom_eq, Sight.of_append (by simp [hs]) u, hs]
          apply ih _ (Sight.length_of_passes hs) h _ rfl
      | finishes b rest =>
          rw [hs] at h
          rw [scanFrom_eq, Sight.of_append (by simp [hs]) u, hs]
          apply ih _ (Sight.length_of_finishes hs) h _ rfl

/-- A text with an irregular name has it still when it goes on. -/
theorem scan_irregular {t : Text} (h : (scan t).irregular = true) (u : Text) :
  (scan (t ++ u)).irregular = true
  := scanFrom_irregular h _ u

end Block

end BranchingStory
