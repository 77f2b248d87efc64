import BranchingStory.Compression.Bits

/-!
# Prefix codes

A prefix code gives a word of bits to every symbol that has one, and no word begins another
one.  The lengths of the words fix the words: shorter words come before longer ones, and of
words of one length that of the lower symbol comes first.
-/

namespace BranchingStory

/-- A prefix code: how many words of each length from one on there are, and the symbols in
the order of their words. -/
structure PrefixCode where
  counts : List Nat
  symbols : Array Nat
  deriving Repr, DecidableEq

namespace PrefixCode

/-- The greatest length of a word. -/
def longest : Nat := 15

/-- How many words of the greatest length begin with a word of a length. -/
def share (length : Nat) : Nat :=
  Nat.pow 2 (longest - length)

/-- Whether there are words of some lengths such that every long enough stretch of bits
begins with one of them.  A lone word of one bit passes where `loneAllowed`, and so does the
lack of all words, with which nothing can be read. -/
def fits (loneAllowed : Bool) (lengths : List Nat) : Bool :=
  let used := lengths.filter (· ≠ 0)
  used.isEmpty || (loneAllowed && used = [1])
    || used.foldl (fun n length => n + share length) 0 = Nat.pow 2 longest

/-- The code with words of some lengths, which are those of the symbols from zero on; a
length of zero is that of a symbol without a word. -/
def ofLengths (lengths : List Nat) : PrefixCode :=
  let top := max 1 (lengths.foldl max 0)
  let used := (List.range top).map (· + 1)
  { counts := used.map fun n => lengths.count n
    symbols :=
      (used.flatMap fun n => (lengths.zipIdx.filter (·.1 = n)).map (·.2)).toArray }

/-- Reads a word whose first bits write `value`: `low` is what the first word of that
length would write, and `index` the number of shorter words. -/
def readFrom (symbols : Array Nat) :
    (value low index : Nat) → (counts : List Nat) → Bits → Except Bits.Stop (Nat × Bits)
  | _, _, _, [], _ => .error .malformed
  | _, _, _, _ :: _, [] => .error .unfinished
  | value, low, index, count :: counts, b :: bits =>
    let value := 2 * value + b.toNat
    let low := 2 * low
    if value < low + count then .ok (symbols.getD (index + (value - low)) 0, bits)
    else readFrom symbols value (low + count) (index + count) counts bits

/-- Reads the symbol of the word in front. -/
def read (c : PrefixCode) (bits : Bits) : Except Bits.Stop (Nat × Bits) :=
  readFrom c.symbols 0 0 0 c.counts bits

theorem length_of_readFrom {symbols : Array Nat} {value low index s : Nat} {counts : List Nat}
    {bits rest : Bits} (h : readFrom symbols value low index counts bits = .ok (s, rest)) :
  rest.length < bits.length
  := by
  induction counts generalizing value low index bits with
  | nil => simp [readFrom] at h
  | cons count counts ih =>
    cases bits with
    | nil => simp [readFrom] at h
    | cons b bits =>
      simp only [readFrom] at h
      split at h
      · simp only [Except.ok.injEq, Prod.mk.injEq] at h
        simp [← h.2]
      · exact Nat.lt_succ_of_lt (ih h)

/-- Reading a symbol takes at least one bit. -/
theorem length_of_read {c : PrefixCode} {s : Nat} {bits rest : Bits}
    (h : c.read bits = .ok (s, rest)) :
  rest.length < bits.length
  := length_of_readFrom h

end PrefixCode

end BranchingStory
