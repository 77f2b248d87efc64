import BranchingStory.Compression.Code

/-!
# Inflation

Compressed bytes come in blocks.  A block holds bytes as they are, or symbols of two prefix
codes, which are fixed or stand in front of it: a symbol is a byte, or says to repeat bytes
of the output from a distance on.  What the bits so far give comes out even where more have
to come.
-/

namespace BranchingStory

namespace Inflate

open Bits (Stop)

/-- What comes out so far, and the bits behind what was read or why reading stopped. -/
abbrev Outcome := Array UInt8 × Except Stop Bits

/-- The least length for each symbol of a repetition, and the number of bits that tell how
much is added. -/
def lengthSteps : List (Nat × Nat) :=
  [(3, 0), (4, 0), (5, 0), (6, 0), (7, 0), (8, 0), (9, 0), (10, 0), (11, 1), (13, 1), (15, 1),
   (17, 1), (19, 2), (23, 2), (27, 2), (31, 2), (35, 3), (43, 3), (51, 3), (59, 3), (67, 4),
   (83, 4), (99, 4), (115, 4), (131, 5), (163, 5), (195, 5), (227, 5), (258, 0)]

/-- The least distance for each symbol of a distance, and the number of bits that tell how
much is added. -/
def distanceSteps : List (Nat × Nat) :=
  [(1, 0), (2, 0), (3, 0), (4, 0), (5, 1), (7, 1), (9, 2), (13, 2), (17, 3), (25, 3), (33, 4),
   (49, 4), (65, 5), (97, 5), (129, 6), (193, 6), (257, 7), (385, 7), (513, 8), (769, 8),
   (1025, 9), (1537, 9), (2049, 10), (3073, 10), (4097, 11), (6145, 11), (8193, 12),
   (12289, 12), (16385, 13), (24577, 13)]

/-- What a symbol of the code of bytes and lengths says. -/
inductive Symbol where
  | byte (b : UInt8)
  | endOfBlock
  /-- To repeat bytes, as many as a step tells. -/
  | repetition (step : Nat)
  deriving Repr, DecidableEq

/-- The number of the end of a block; lower numbers are bytes, higher ones repetitions. -/
def endNumber : Nat := 256

/-- The symbol of a number. -/
def Symbol.ofNumber (n : Nat) : Symbol :=
  if n < endNumber then byte (UInt8.ofNat n)
  else if n = endNumber then endOfBlock
  else repetition (n - endNumber - 1)

/-- Reads a number that a step begins. -/
def readStep (steps : List (Nat × Nat)) (symbol : Nat) (bits : Bits) :
    Except Stop (Nat × Bits) :=
  match steps[symbol]? with
  | none => .error .malformed
  | some (least, extra) => (bits.read extra).map fun r => (least + r.1, r.2)

/-- Reading a step adds no bits. -/
theorem length_of_readStep {steps : List (Nat × Nat)} {symbol v : Nat} {bits rest : Bits}
    (h : readStep steps symbol bits = .ok (v, rest)) :
  rest.length ≤ bits.length
  := by
  simp only [readStep] at h
  split at h
  · simp at h
  · rename_i extra _
    cases hr : bits.read extra with
    | error e => simp [hr, Except.map] at h
    | ok r =>
      obtain ⟨v', rest'⟩ := r
      simp only [hr, Except.map, Except.ok.injEq, Prod.mk.injEq] at h
      have := Bits.length_of_read hr
      rw [← h.2]
      omega

/-- Reads the distance of a repetition. -/
def readDistance (distances : PrefixCode) (bits : Bits) : Except Stop (Nat × Bits) :=
  match distances.read bits with
  | .error e => .error e
  | .ok (symbol, bits) => readStep distanceSteps symbol bits

/-- Reading a distance adds no bits. -/
theorem length_of_readDistance {distances : PrefixCode} {v : Nat} {bits rest : Bits}
    (h : readDistance distances bits = .ok (v, rest)) :
  rest.length ≤ bits.length
  := by
  simp only [readDistance] at h
  split at h
  · simp at h
  · rename_i hr
    have := PrefixCode.length_of_read hr
    have := length_of_readStep h
    omega

/-- Reads the length, which a step begins, and the distance of a repetition. -/
def readRepetition (distances : PrefixCode) (step : Nat) (bits : Bits) :
    Except Stop (Nat × Nat × Bits) :=
  match readStep lengthSteps step bits with
  | .error e => .error e
  | .ok (length, bits) => (readDistance distances bits).map fun r => (length, r.1, r.2)

/-- Reading a repetition adds no bits. -/
theorem length_of_readRepetition {distances : PrefixCode} {step length distance : Nat}
    {bits rest : Bits}
    (h : readRepetition distances step bits = .ok (length, distance, rest)) :
  rest.length ≤ bits.length
  := by
  simp only [readRepetition] at h
  split at h
  · simp at h
  · rename_i left hs
    have hl := length_of_readStep hs
    cases hr : readDistance distances left with
    | error e => simp [hr, Except.map] at h
    | ok r =>
      obtain ⟨v', rest'⟩ := r
      simp only [hr, Except.map, Except.ok.injEq, Prod.mk.injEq] at h
      have := length_of_readDistance hr
      rw [← h.2.2]
      omega

/-- Adds `length` bytes, each of which is the one at a distance before it. -/
def repeatBack (distance : Nat) : (length : Nat) → Array UInt8 → Array UInt8
  | 0, out => out
  | n + 1, out => repeatBack distance n (out.push (out.getD (out.size - distance) 0))

/-- Reads symbols up to the end of the block. -/
def readSymbols (literals distances : PrefixCode) (out : Array UInt8) (bits : Bits) : Outcome :=
  match _h : literals.read bits with
  | .error e => (out, .error e)
  | .ok (number, left) =>
    match Symbol.ofNumber number with
    | .byte b => readSymbols literals distances (out.push b) left
    | .endOfBlock => (out, .ok left)
    | .repetition step =>
      match _h' : readRepetition distances step left with
      | .error e => (out, .error e)
      | .ok (length, distance, left') =>
        if out.size < distance then (out, .error .malformed)
        else readSymbols literals distances (repeatBack distance length out) left'
termination_by bits.length
decreasing_by
  · exact PrefixCode.length_of_read _h
  · have := PrefixCode.length_of_read _h
    have := length_of_readRepetition _h'
    omega

/-- Reading symbols adds no bits. -/
theorem length_of_readSymbols {literals distances : PrefixCode} {out : Array UInt8}
    {bits rest : Bits} (h : (readSymbols literals distances out bits).2 = .ok rest) :
  rest.length ≤ bits.length
  := by
  fun_induction readSymbols literals distances out bits with
  | case1 => simp at h
  | case2 out bits number left hr b hs ih =>
    have := PrefixCode.length_of_read hr
    have := ih h
    omega
  | case3 out bits number left hr hs =>
    have := PrefixCode.length_of_read hr
    simp only [Except.ok.injEq] at h
    rw [← h]
    omega
  | case4 => simp at h
  | case5 => simp at h
  | case6 out bits number left hr step hs length distance left' hr' hd ih =>
    have := PrefixCode.length_of_read hr
    have := length_of_readRepetition hr'
    have := ih h
    omega

/-! ## Blocks -/

/-- The code of bytes and lengths of a block that tells none. -/
def fixedLiterals : PrefixCode :=
  .ofLengths (List.replicate 144 8 ++ List.replicate 112 9 ++ List.replicate 24 7
    ++ List.replicate 8 8)

/-- The code of distances of a block that tells none. -/
def fixedDistances : PrefixCode :=
  .ofLengths (List.replicate 32 5)

/-- The order in which the lengths of the words for lengths are told. -/
def lengthOrder : List Nat :=
  [16, 17, 18, 0, 8, 7, 9, 6, 10, 5, 11, 4, 12, 3, 13, 2, 14, 1, 15]

/-- Reads `n` numbers of three bits. -/
def readTriples : (n : Nat) → Bits → Except Stop (List Nat × Bits)
  | 0, bits => .ok ([], bits)
  | n + 1, bits =>
    match bits.read 3 with
    | .error e => .error e
    | .ok (v, bits) => (readTriples n bits).map fun r => (v :: r.1, r.2)

theorem length_of_readTriples {n : Nat} {vs : List Nat} {bits rest : Bits}
    (h : readTriples n bits = .ok (vs, rest)) :
  rest.length ≤ bits.length
  := by
  induction n generalizing vs bits rest with
  | zero => simp_all [readTriples]
  | succ n ih =>
    simp only [readTriples] at h
    split at h
    · simp at h
    · rename_i left hb
      have := Bits.length_of_read hb
      cases hr : readTriples n left with
      | error e => simp [hr, Except.map] at h
      | ok r =>
        obtain ⟨vs', rest'⟩ := r
        simp only [hr, Except.map, Except.ok.injEq, Prod.mk.injEq] at h
        have := ih hr
        rw [← h.2]
        omega

/-- Reads the word for a length.  A code without words counts as one with a word of one bit
for zero. -/
def readLengthWord (code : PrefixCode) (bits : Bits) : Except Stop (Nat × Bits) :=
  if code.symbols.isEmpty then (bits.read 1).map fun r => (0, r.2) else code.read bits

/-- Reading a word of the code of lengths takes at least one bit. -/
theorem length_of_readLengthWord {code : PrefixCode} {s : Nat} {bits rest : Bits}
    (h : readLengthWord code bits = .ok (s, rest)) :
  rest.length < bits.length
  := by
  simp only [readLengthWord] at h
  split at h
  · cases hr : bits.read 1 with
    | error e => simp [hr, Except.map] at h
    | ok r =>
      obtain ⟨v', rest'⟩ := r
      simp only [hr, Except.map, Except.ok.injEq, Prod.mk.injEq] at h
      have := Bits.length_of_read hr
      rw [← h.2]
      omega
  · exact PrefixCode.length_of_read h

/-- Reads how many lengths follow and which one they are, behind the lengths `before`, the
last of which is in front. -/
def readLengthRun (code : PrefixCode) (before : List Nat) (bits : Bits) :
    Except Stop (Nat × Nat × Bits) :=
  match readLengthWord code bits with
  | .error e => .error e
  | .ok (s, bits) =>
    if s = 16 then
      match bits.read 2, before with
      | .error e, _ => .error e
      | .ok _, [] => .error .malformed
      | .ok (n, bits), last :: _ => .ok (3 + n, last, bits)
    else if s = 17 then (bits.read 3).map fun r => (3 + r.1, 0, r.2)
    else if s = 18 then (bits.read 7).map fun r => (11 + r.1, 0, r.2)
    else .ok (1, s, bits)

theorem length_of_map_read {n count value : Nat} {f : Nat × Bits → Nat} {bits rest : Bits}
    (h : (bits.read n).map (fun r => (f r, 0, r.2)) = .ok (count, value, rest)) :
  rest.length ≤ bits.length
  := by
  cases hr : bits.read n with
  | error e => simp [hr, Except.map] at h
  | ok r =>
    obtain ⟨v', rest'⟩ := r
    simp only [hr, Except.map, Except.ok.injEq, Prod.mk.injEq] at h
    have := Bits.length_of_read hr
    rw [← h.2.2]
    omega

/-- Reading a run of lengths takes at least one bit. -/
theorem length_of_readLengthRun {code : PrefixCode} {before : List Nat} {count value : Nat}
    {bits rest : Bits} (h : readLengthRun code before bits = .ok (count, value, rest)) :
  rest.length < bits.length
  := by
  simp only [readLengthRun] at h
  split at h
  · simp at h
  · rename_i s left hw
    have hl := length_of_readLengthWord hw
    split at h
    · split at h
      · simp at h
      · simp at h
      · rename_i hb
        have := Bits.length_of_read hb
        simp only [Except.ok.injEq, Prod.mk.injEq] at h
        rw [← h.2.2]
        omega
    · split at h
      · have := length_of_map_read h
        omega
      · split at h
        · have := length_of_map_read h
          omega
        · simp only [Except.ok.injEq, Prod.mk.injEq] at h
          rw [← h.2.2]
          omega

/-- Reads lengths until there are `need` of them, behind the lengths `before`, the last of
which is in front. -/
def readLengths (code : PrefixCode) (need : Nat) (before : List Nat) (bits : Bits) :
    Except Stop (List Nat × Bits) :=
  if need ≤ before.length then .ok (before.reverse, bits)
  else
    match _h : readLengthRun code before bits with
    | .error e => .error e
    | .ok (count, value, left) =>
      if need < before.length + count then .error .malformed
      else readLengths code need (List.replicate count value ++ before) left
termination_by bits.length
decreasing_by exact length_of_readLengthRun _h

/-- Reading the lengths of a code adds no bits. -/
theorem length_of_readLengths {code : PrefixCode} {need : Nat} {before lengths : List Nat}
    {bits rest : Bits} (h : readLengths code need before bits = .ok (lengths, rest)) :
  rest.length ≤ bits.length
  := by
  fun_induction readLengths code need before bits with
  | case1 =>
    simp only [Except.ok.injEq, Prod.mk.injEq] at h
    exact Nat.le_of_eq (congrArg List.length h.2.symm)
  | case2 => simp at h
  | case3 => simp at h
  | case4 before bits hn count value left hr hc ih =>
    have := length_of_readLengthRun hr
    have := ih h
    omega

/-- The code whose lengths are told by the lengths of the words for lengths. -/
def lengthCode (told : List Nat) : List Nat :=
  (List.range 19).map fun s => ((lengthOrder.zip told).lookup s).getD 0

/-- The codes that lengths give, of which the first `count` are those for bytes and
lengths. -/
def codesOf (count : Nat) (lengths : List Nat) : Option (PrefixCode × PrefixCode) :=
  let literals := lengths.take count
  let distances := lengths.drop count
  if literals.getD endNumber 0 = 0 then none
  else if PrefixCode.fits true literals && PrefixCode.fits true distances then
    some (.ofLengths literals, .ofLengths distances)
  else none

/-- Reads the codes that stand in front of a block. -/
def readCodes (bits : Bits) : Except Stop ((PrefixCode × PrefixCode) × Bits) :=
  match bits.read 14 with
  | .error e => .error e
  | .ok (n, bits) =>
    let literals := n % 32 + 257
    let distances := n / 32 % 32 + 1
    if 286 < literals ∨ 30 < distances then .error .malformed
    else
      match readTriples (n / 1024 + 4) bits with
      | .error e => .error e
      | .ok (told, bits) =>
        if !PrefixCode.fits false (lengthCode told) then .error .malformed
        else
          match readLengths (.ofLengths (lengthCode told)) (literals + distances) [] bits with
          | .error e => .error e
          | .ok (lengths, bits) =>
            match codesOf literals lengths with
            | none => .error .malformed
            | some codes => .ok (codes, bits)

/-- Reading the codes of a block adds no bits. -/
theorem length_of_readCodes {codes : PrefixCode × PrefixCode} {bits rest : Bits}
    (h : readCodes bits = .ok (codes, rest)) :
  rest.length ≤ bits.length
  := by
  simp only [readCodes] at h
  split at h
  · simp at h
  · rename_i hb
    have := Bits.length_of_read hb
    split at h
    · simp at h
    · split at h
      · simp at h
      · rename_i ht
        have := length_of_readTriples ht
        split at h
        · simp at h
        · split at h
          · simp at h
          · rename_i hl
            have := length_of_readLengths hl
            split at h
            · simp at h
            · simp only [Except.ok.injEq, Prod.mk.injEq] at h
              rw [← h.2]
              omega

/-- Takes `n` bytes as they are. -/
def copyBytes : (n : Nat) → Array UInt8 → Bits → Outcome
  | 0, out, bits => (out, .ok bits)
  | n + 1, out, bits =>
    match bits.read 8 with
    | .error e => (out, .error e)
    | .ok (b, bits) => copyBytes n (out.push (UInt8.ofNat b)) bits

theorem length_of_copyBytes {n : Nat} {out : Array UInt8} {bits rest : Bits}
    (h : (copyBytes n out bits).2 = .ok rest) :
  rest.length ≤ bits.length
  := by
  induction n generalizing out bits with
  | zero => simp_all [copyBytes]
  | succ n ih =>
    simp only [copyBytes] at h
    split at h
    · simp at h
    · rename_i hb
      have := Bits.length_of_read hb
      have := ih h
      omega

/-- Reads a block of bytes as they are: their number stands in front, and the same number
with all bits turned round. -/
def readStored (out : Array UInt8) (bits : Bits) : Outcome :=
  match bits.align.read 32 with
  | .error e => (out, .error e)
  | .ok (n, bits) =>
    if n / 65536 + n % 65536 = 65535 then copyBytes (n % 65536) out bits
    else (out, .error .malformed)

/-- Reading a stored block adds no bits. -/
theorem length_of_readStored {out : Array UInt8} {bits rest : Bits}
    (h : (readStored out bits).2 = .ok rest) :
  rest.length ≤ bits.length
  := by
  simp only [readStored] at h
  split at h
  · simp at h
  · rename_i hb
    have := Bits.length_of_read hb
    have := Bits.length_align_le bits
    split at h
    · have := length_of_copyBytes h
      omega
    · simp at h

/-- Reads the rest of a block of a kind. -/
def readBlock (kind : Nat) (out : Array UInt8) (bits : Bits) : Outcome :=
  match kind with
  | 0 => readStored out bits
  | 1 => readSymbols fixedLiterals fixedDistances out bits
  | 2 =>
    match readCodes bits with
    | .error e => (out, .error e)
    | .ok (codes, bits) => readSymbols codes.1 codes.2 out bits
  | _ => (out, .error .malformed)

/-- Reading a block adds no bits. -/
theorem length_of_readBlock {kind : Nat} {out : Array UInt8} {bits rest : Bits}
    (h : (readBlock kind out bits).2 = .ok rest) :
  rest.length ≤ bits.length
  := by
  simp only [readBlock] at h
  split at h
  · exact length_of_readStored h
  · exact length_of_readSymbols h
  · split at h
    · simp at h
    · rename_i hc
      have := length_of_readCodes hc
      have := length_of_readSymbols h
      omega
  · simp at h

/-- Reads blocks up to the one that says that it is the last. -/
def readBlocks (out : Array UInt8) (bits : Bits) : Outcome :=
  match _h : bits.read 3 with
  | .error e => (out, .error e)
  | .ok (head, left) =>
    match _h' : readBlock (head / 2) out left with
    | (out, .error e) => (out, .error e)
    | (out, .ok left') => if head % 2 = 1 then (out, .ok left') else readBlocks out left'
termination_by bits.length
decreasing_by
  have := Bits.length_of_read _h
  have := length_of_readBlock (congrArg Prod.snd _h')
  omega

end Inflate

end BranchingStory
