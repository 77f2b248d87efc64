import BranchingStory.Text.Digit

/-!
# Punycode

A text in ASCII letters, digits and hyphens.  The ASCII characters of the text come first,
then a hyphen, then one number for each of the others in the order of their codes: the gap
between the place and code of a character and those of the one before it.  Numbers are
written with the least digit first, in digits whose weights depend on thresholds, and the
thresholds follow the size of the gaps so far.
-/

namespace BranchingStory

namespace Punycode

/-- The digit of a value below thirty-six: a letter or, from twenty-six on, a digit. -/
def digitOf (n : Nat) : Char :=
  Char.ofNat (if n < 26 then 97 + n else 22 + n)

/-- The value of a digit, in either case. -/
def digitValue? (c : Char) : Option Nat :=
  let n := c.toNat
  if 97 ≤ n ∧ n ≤ 122 then some (n - 97)
  else if 65 ≤ n ∧ n ≤ 90 then some (n - 65)
  else if 48 ≤ n ∧ n ≤ 57 then some (n - 22)
  else none

/-- The threshold of the digit at a place: a lower digit is the last one of its number. -/
def threshold (bias place : Nat) : Nat :=
  min 26 (max 1 (36 * (place + 1) - bias))

/-- The bias before the first number. -/
def firstBias : Nat := 72

/-- Divides by thirty-five until at most 455 is left, counting the steps. -/
def scaleDown (gap steps : Nat) : Nat × Nat :=
  if 455 < gap then scaleDown (gap / 35) (steps + 1) else (gap, steps)
termination_by gap
decreasing_by omega

/-- The bias after a gap, with which there are `count` characters. -/
def nextBias (first : Bool) (gap count : Nat) : Nat :=
  let gap := if first then gap / 700 else gap / 2
  let (rest, steps) := scaleDown (gap + gap / count) 0
  36 * steps + 36 * rest / (rest + 38)

/-- The first code that is not ASCII. -/
def firstCode : Nat := 128

/-! ## Writing -/

/-- The digits of a number from a place on. -/
def number (bias place n : Nat) : Text :=
  let least := threshold bias place
  if n < least then [digitOf n]
  else digitOf (least + (n - least) % (36 - least))
    :: number bias (place + 1) ((n - least) / (36 - least))
termination_by n
decreasing_by
  have h : 1 ≤ threshold bias place := by simp only [threshold]; omega
  exact Nat.lt_of_le_of_lt (Nat.div_le_self _ _) (by omega)

/-- Where writing stands: the numbers so far, the gap to the next one, and how many
characters of the text are written. -/
structure Progress where
  written : Text
  gap : Nat
  bias : Nat
  count : Nat

/-- Passes a character of the text while the characters of a code are written; `first` is
whether none has been written yet. -/
def pass (basic code : Nat) (p : Progress) (c : Char) : Progress :=
  if c.toNat < code then { p with gap := p.gap + 1 }
  else if c.toNat = code then
    { written := p.written ++ number p.bias 0 p.gap
      gap := 0
      bias := nextBias (p.count = basic) p.gap (p.count + 1)
      count := p.count + 1 }
  else p

/-- Writes the characters of rising codes, where all lower ones than `low` are written. -/
def writeCodes (t : Text) (basic : Nat) : (low : Nat) → List Nat → Progress → Progress
  | _, [], p => p
  | low, code :: codes, p =>
    let p := t.foldl (pass basic code) { p with gap := p.gap + (code - low) * (p.count + 1) }
    writeCodes t basic (code + 1) codes { p with gap := p.gap + 1 }

/-- The text in Punycode. -/
def encode (t : Text) : Text :=
  let basic := t.filter (·.toNat < firstCode)
  let codes := ((t.map Char.toNat).filter (firstCode ≤ ·)).mergeSort.eraseDups
  let p := writeCodes t basic.length firstCode codes ⟨[], 0, firstBias, basic.length⟩
  (if basic.isEmpty then [] else basic ++ ['-']) ++ p.written

/-! ## Reading -/

/-- Reads a number from its digit at a place on, whose weight is given. -/
def takeNumber (bias : Nat) : (place weight : Nat) → Text → Option (Nat × Text)
  | _, _, [] => none
  | place, weight, c :: t =>
    match digitValue? c with
    | none => none
    | some d =>
      let least := threshold bias place
      if d < least then some (d * weight, t)
      else (takeNumber bias (place + 1) (weight * (36 - least)) t).map fun r =>
        (d * weight + r.1, r.2)

theorem takeNumber_length {bias place weight n : Nat} {t rest : Text}
  (h : takeNumber bias place weight t = some (n, rest)) :
  rest.length < t.length
  := by
  induction t generalizing place weight n rest with
  | nil => simp [takeNumber] at h
  | cons c t ih =>
    simp only [takeNumber] at h
    split at h
    · simp at h
    · split at h
      · simp only [Option.some.injEq, Prod.mk.injEq] at h
        simp [← h.2]
      · obtain ⟨r, hr, he⟩ := Option.map_eq_some_iff.mp h
        rw [← (Prod.mk.inj he).2]
        exact Nat.lt_succ_of_lt (ih hr)

/-- Puts characters into a text, the next one at `place` and with at least the code `code`,
as numbers say.  The outcome is the text and whether all numbers were good; a code beyond
all characters gives a question mark, and a faulty number ends reading. -/
def insertAll (first : Bool) (bias place code : Nat) (t numbers : Text) : Text × Bool :=
  match numbers with
  | [] => (t, true)
  | c :: more =>
    match _h : takeNumber bias 0 1 (c :: more) with
    | none => (t, false)
    | some (gap, rest) =>
      let count := t.length + 1
      let code := code + (place + gap) / count
      let place := (place + gap) % count
      let tooHigh := 0x10FFFF < code
      let code := if tooHigh then 63 else code
      let t := t.take place ++ Char.ofNat code :: t.drop place
      let (t, good) := insertAll false (nextBias first gap count) (place + 1) code t rest
      (t, good && !tooHigh)
termination_by numbers.length
decreasing_by
  have := takeNumber_length _h
  simpa using this

/-- The ASCII characters in front of the last hyphen, and what follows it. -/
def cutBasic (t : Text) : Text × Text :=
  if t.contains '-' then
    let (behind, before) := t.reverse.span (· ≠ '-')
    ((before.drop 1).reverse, behind.reverse)
  else ([], t)

/-- The text that Punycode writes, as far as it is good, and whether all of it is. -/
def decodePart (t : Text) : Text × Bool :=
  let (basic, numbers) := cutBasic t
  insertAll true firstBias 0 firstCode basic numbers

/-- The text that Punycode writes. -/
def decode? (t : Text) : Option Text :=
  match decodePart t with
  | (t, true) => some t
  | _ => none

end Punycode

end BranchingStory
