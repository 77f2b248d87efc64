import BranchingStory.Markup.Scan
import BranchingStory.Markup.TagName
import BranchingStory.Text.Case

/-!
# Blocks

A story is written in top-level blocks of four kinds, each from an opening tag to the
closing tag of the same name.  `Block.scan` finds the finished blocks of a text that
may still grow at its end: an opening tag that holds an angle bracket, and a block
inside which another one opens, are passed over; at a tag or block that is not finished
the scan waits.  What is left is everything behind the last finished block.
-/

namespace BranchingStory

/-- The four kinds of top-level blocks. -/
inductive BlockKind where
  | narrator
  | character
  | segment
  | choices
  deriving Repr, DecidableEq

namespace BlockKind

/-- All kinds. -/
def all : List BlockKind := [narrator, character, segment, choices]

/-- The tag name of a kind. -/
def name : BlockKind → Text
  | narrator => "narrator"
  | character => "character"
  | segment => "segment"
  | choices => "choices"

end BlockKind

/-- The start of an opening tag: the kind that its name spells, the spelling, and what
stands behind the name. -/
structure Opener where
  kind : BlockKind
  spelling : Text
  rest : Text
  deriving Repr, DecidableEq

namespace Opener

/-- Whether a tag name may end before `t`: at a blank or at the end of the tag. -/
def nameEndsAt : Text → Bool
  | [] => false
  | c :: _ => isBlank c || c == '>'

/-- The opener of a kind at the front of the text behind an opening angle bracket. -/
def ofKind? (t : Text) (k : BlockKind) : Option Opener :=
  match TagName.take? k.name t with
  | none => none
  | some (spelling, rest) => if nameEndsAt rest then some ⟨k, spelling, rest⟩ else none

/-- The opener at the front of a text. -/
def at? : Text → Option Opener
  | '<' :: t => BlockKind.all.findSome? (ofKind? t)
  | _ => none

/-- The first opener of a text. -/
def find? : Text → Option Opener
  | [] => none
  | c :: t => (at? (c :: t)).or (find? t)

/-- Whether the spelling becomes the name of the kind in small letters.  A name spelled
with a long s, a dotless i or a dotted capital i does not. -/
def isRegular (o : Opener) : Bool :=
  Text.lower o.spelling == o.kind.name

end Opener

/-- How the text behind an opening tag goes on: to the closing tag, to the start of
another block before it, or to the end without either. -/
inductive Ending where
  | closed (inner closing rest : Text)
  | interrupted
  | unfinished
  deriving Repr, DecidableEq

/-- How the text behind an opening tag of a kind goes on. -/
def Ending.of (k : BlockKind) : Text → Ending
  | [] => unfinished
  | c :: t =>
    match TagName.closing? k.name (c :: t) with
    | some (closing, rest) => closed [] closing rest
    | none =>
      if (Opener.at? (c :: t)).isSome then interrupted
      else
        match Ending.of k t with
        | closed inner closing rest => closed (c :: inner) closing rest
        | e => e

/-- A finished block: its opening tag, what stands inside, and its closing tag. -/
structure Block where
  kind : BlockKind
  opening : Text
  inner : Text
  closing : Text
  deriving Repr, DecidableEq

/-- The text of a block. -/
def Block.text (b : Block) : Text :=
  b.opening ++ b.inner ++ b.closing

/-- The finished blocks of a text, what stands behind the last of them, and whether the
scan met a block whose name is not regular. -/
structure Scan where
  blocks : List Block
  rest : Text
  irregular : Bool
  deriving Repr, DecidableEq

/-! ## Lengths -/

theorem TagName.take?_length {name t spelling rest : Text}
    (h : TagName.take? name t = some (spelling, rest)) :
  rest.length ≤ t.length
  := by
  induction name generalizing t spelling with
  | nil => simp_all [TagName.take?]
  | cons a name ih =>
    cases t with
    | nil => simp [TagName.take?] at h
    | cons c t =>
      simp only [TagName.take?] at h
      split at h
      · obtain ⟨p, hp, he⟩ := Option.map_eq_some_iff.mp h
        have hp' : TagName.take? name t = some (p.1, rest) := by rw [hp, ← (Prod.mk.inj he).2]
        have := ih hp'
        simp only [List.length_cons]
        omega
      · simp at h

/-- Less is left behind the end of a tag. -/
theorem TagName.tagEnd?_length {t closing rest : Text}
    (h : TagName.tagEnd? t = some (closing, rest)) :
  rest.length < t.length
  := by
  unfold TagName.tagEnd? at h
  split at h
  · next rest' hd =>
    simp only [Option.some.injEq, Prod.mk.injEq] at h
    have hs := (List.dropWhile_sublist isBlank (l := t)).length_le
    rw [hd, h.2, List.length_cons] at hs
    omega
  · simp at h

/-- Less is left behind a closing tag. -/
theorem TagName.closing?_length {name t closing rest : Text}
    (h : TagName.closing? name t = some (closing, rest)) :
  rest.length < t.length
  := by
  unfold TagName.closing? at h
  split at h
  · split at h
    · simp at h
    · next hp =>
      obtain ⟨q, hq, he⟩ := Option.map_eq_some_iff.mp h
      have h₁ := TagName.take?_length hp
      have hq' : TagName.tagEnd? _ = some (q.1, q.2) := hq
      have h₂ := TagName.tagEnd?_length hq'
      rw [← (Prod.mk.inj he).2]
      simp only [List.length_cons]
      omega
  · simp at h

/-- Less is left behind an opening tag. -/
theorem Opener.at?_length {t : Text} {o : Opener} (h : Opener.at? t = some o) :
  o.rest.length < t.length
  := by
  unfold Opener.at? at h
  split at h
  · obtain ⟨k, -, hk⟩ := List.exists_of_findSome?_eq_some h
    unfold Opener.ofKind? at hk
    split at hk
    · simp at hk
    · next hp =>
      split at hk
      · have := TagName.take?_length hp
        simp only [Option.some.injEq] at hk
        rw [← hk]
        simp only [List.length_cons]
        omega
      · simp at hk
  · simp at h

/-- Less is left behind the first opening tag. -/
theorem Opener.find?_length {t : Text} {o : Opener} (h : Opener.find? t = some o) :
  o.rest.length < t.length
  := by
  induction t with
  | nil => simp [Opener.find?] at h
  | cons c t ih =>
    simp only [Opener.find?] at h
    cases ha : Opener.at? (c :: t) with
    | some o' =>
      rw [ha] at h
      simp only [Option.some_or, Option.some.injEq] at h
      exact h ▸ Opener.at?_length ha
    | none =>
      rw [ha] at h
      have := ih (by simpa using h)
      simp only [List.length_cons]
      omega

/-- Less is left behind a block. -/
theorem Ending.of_closed_length {k : BlockKind} {t inner closing rest : Text}
    (h : Ending.of k t = .closed inner closing rest) :
  rest.length < t.length
  := by
  induction t generalizing inner with
  | nil => simp [Ending.of] at h
  | cons c t ih =>
    simp only [Ending.of] at h
    split at h
    · next hc =>
      have := TagName.closing?_length hc
      simp only [Ending.closed.injEq] at h
      rw [← h.2.2]
      exact this
    · split at h
      · simp at h
      · split at h
        · next he =>
          simp only [Ending.closed.injEq] at h
          have := ih (he.trans (by rw [h.2.1, h.2.2]))
          simp only [List.length_cons]
          omega
        · next hn =>
          exact absurd h (hn _ _ _)

theorem Text.cutAt?_length {c : Char} {t before after : Text}
    (h : Text.cutAt? c t = some (before, after)) :
  after.length < t.length
  := by
  rw [(Text.cutAt?_eq_some_iff.mp h).1]
  simp only [List.length_append, List.length_cons]
  omega

/-! ## Scanning -/

namespace Block

/-- Scans on from `cursor`, a tail of the text `kept` that stands behind the last
finished block. -/
def scanFrom (kept cursor : Text) : Scan :=
  match _ho : Opener.find? cursor with
  | none => ⟨[], kept, false⟩
  | some o =>
    match _hc : Text.cutAt? '>' o.rest with
    | none => ⟨[], kept, false⟩
    | some (attributes, body) =>
      if attributes.contains '<' then scanFrom kept o.rest
      else if !o.isRegular then ⟨[], kept, true⟩
      else
        match _he : Ending.of o.kind body with
        | .interrupted => scanFrom kept o.rest
        | .unfinished => ⟨[], kept, false⟩
        | .closed inner closing rest =>
          let more := scanFrom rest rest
          let block : Block :=
            ⟨o.kind, '<' :: o.spelling ++ attributes ++ ['>'], inner, closing⟩
          { more with blocks := block :: more.blocks }
termination_by cursor.length
decreasing_by
  · exact Opener.find?_length _ho
  · exact Opener.find?_length _ho
  · have h₁ := Opener.find?_length _ho
    have h₂ := Text.cutAt?_length _hc
    have h₃ := Ending.of_closed_length _he
    omega

/-- Scans a text. -/
def scan (t : Text) : Scan :=
  scanFrom t t

end Block

end BranchingStory
