import BranchingStory.Compression.Checksum
import BranchingStory.Compression.Inflate

/-!
# Envelopes

Compressed bytes may have a header in front and a trailer behind them, which holds a
checksum.  `Envelope.unpack` gives what the bytes so far hold.
-/

namespace BranchingStory

open Bits (Stop)

/-- What stands around compressed bytes. -/
inductive Envelope where
  | bare
  /-- A short header, and the pair of sums. -/
  | summed
  /-- The header of a file, and the remainder and the number of all bytes. -/
  | filed
  deriving Repr, DecidableEq

namespace Envelope

/-- Whether a bit of the flags is set. -/
def isSet (flags : UInt8) (place : Nat) : Bool :=
  flags.toNat.testBit place

/-- The bytes behind the first `n` ones. -/
def skip (n : Nat) (bs : Bytes) : Except Stop Bytes :=
  if bs.length < n then .error .unfinished else .ok (bs.drop n)

/-- The bytes behind the next zero. -/
def skipZero (bs : Bytes) : Except Stop Bytes :=
  match bs.dropWhile (· ≠ 0) with
  | [] => .error .unfinished
  | _ :: rest => .ok rest

/-- The bytes behind a field that has its length in front. -/
def skipField (bs : Bytes) : Except Stop Bytes :=
  match bs with
  | low :: high :: rest => skip (high.toNat * 256 + low.toNat) rest
  | _ => .error .unfinished

/-- Takes a step where a flag is set. -/
def whenSet (flags : UInt8) (place : Nat) (step : Bytes → Except Stop Bytes) (bs : Bytes) :
    Except Stop Bytes :=
  if isSet flags place then step bs else .ok bs

/-- Checks the lower half of the remainder of a header, from which `bs` is left. -/
def skipRemainder (header bs : Bytes) : Except Stop Bytes :=
  match bs with
  | low :: high :: rest =>
    let taken := header.take (header.length - bs.length)
    if Checksum.remainder taken.toArray % 65536 = high.toNat * 256 + low.toNat then .ok rest
    else .error .malformed
  | _ => .error .unfinished

/-- The bytes behind the header of a file: two bytes that mark it, one for the way to
compress, flags, six bytes about the file and, where flags say so, a field, two texts up to
zeros and the lower half of the remainder of all that. -/
def skipFileHeader (bs : Bytes) : Except Stop Bytes :=
  match bs with
  | a :: b :: rest =>
    if a ≠ 0x1F ∨ b ≠ 0x8B then .error .malformed
    else
      match rest with
      | way :: flags :: rest =>
        if way ≠ 8 ∨ 0x20 ≤ flags then .error .malformed
        else do
          let rest ← skip 6 rest
          let rest ← whenSet flags 2 skipField rest
          let rest ← whenSet flags 3 skipZero rest
          let rest ← whenSet flags 4 skipZero rest
          whenSet flags 1 (skipRemainder bs) rest
      | _ => .error .unfinished
  | _ => .error .unfinished

/-- The bytes behind a short header: two bytes, which as one number are a multiple of 31,
for the way to compress, the reach of repetitions and flags.  A dictionary, which a flag
asks for, is not there. -/
def skipShortHeader (bs : Bytes) : Except Stop Bytes :=
  match bs with
  | a :: b :: rest =>
    if (a.toNat * 256 + b.toNat) % 31 ≠ 0 ∨ a % 16 ≠ 8 ∨ 0x80 ≤ a then .error .malformed
    else if isSet b 5 then (skip 4 rest).bind fun _ => .error .malformed
    else .ok rest
  | _ => .error .unfinished

/-- The bytes behind the header. -/
def skipHeader : Envelope → Bytes → Except Stop Bytes
  | bare, bs => .ok bs
  | summed, bs => skipShortHeader bs
  | filed, bs => skipFileHeader bs

/-- Checks that a number of 32 bits comes next. -/
def expect (n : Nat) (bits : Bits) : Except Stop Bits := do
  let (found, bits) ← bits.read 32
  if found = n then .ok bits else .error .malformed

/-- Checks the trailer behind what came out. -/
def checkTrailer (e : Envelope) (out : Array UInt8) (bits : Bits) : Except Stop Unit :=
  match e with
  | bare => .ok ()
  | summed => do
    let _ ← expect (Checksum.sumsSent out) bits
  | filed => do
    let bits ← expect (Checksum.remainder out) bits
    let _ ← expect (out.size % 4294967296) bits

/-- What comes out of the bytes so far, and whether they are all or why there are more or
why they make no sense. -/
def unpack (e : Envelope) (bs : Bytes) : Array UInt8 × Except Stop Unit :=
  match e.skipHeader bs with
  | .error s => (#[], .error s)
  | .ok rest =>
    match Inflate.readBlocks #[] (Bits.ofBytes rest) with
    | (out, .error s) => (out, .error s)
    | (out, .ok bits) => (out, e.checkTrailer out bits.align)

end Envelope

end BranchingStory
