/-
Module: TapeMultiplier.Digest
Layer: Data
Purpose: SHA-256 digests, by which a program file is recognised.
Main exports: Digest.sha256
-/
import TapeMultiplier.Text.Quoted

namespace TapeMultiplier.Digest

/-- The round constants: the first 32 bits of the fractional parts of the cube roots of the first 64
primes. -/
def roundConstants : Array UInt32 :=
  #[0x428a2f98, 0x71374491, 0xb5c0fbcf, 0xe9b5dba5, 0x3956c25b, 0x59f111f1, 0x923f82a4, 0xab1c5ed5,
    0xd807aa98, 0x12835b01, 0x243185be, 0x550c7dc3, 0x72be5d74, 0x80deb1fe, 0x9bdc06a7, 0xc19bf174,
    0xe49b69c1, 0xefbe4786, 0x0fc19dc6, 0x240ca1cc, 0x2de92c6f, 0x4a7484aa, 0x5cb0a9dc, 0x76f988da,
    0x983e5152, 0xa831c66d, 0xb00327c8, 0xbf597fc7, 0xc6e00bf3, 0xd5a79147, 0x06ca6351, 0x14292967,
    0x27b70a85, 0x2e1b2138, 0x4d2c6dfc, 0x53380d13, 0x650a7354, 0x766a0abb, 0x81c2c92e, 0x92722c85,
    0xa2bfe8a1, 0xa81a664b, 0xc24b8b70, 0xc76c51a3, 0xd192e819, 0xd6990624, 0xf40e3585, 0x106aa070,
    0x19a4c116, 0x1e376c08, 0x2748774c, 0x34b0bcb5, 0x391c0cb3, 0x4ed8aa4a, 0x5b9cca4f, 0x682e6ff3,
    0x748f82ee, 0x78a5636f, 0x84c87814, 0x8cc70208, 0x90befffa, 0xa4506ceb, 0xbef9a3f7, 0xc67178f2]

/-- The eight working words of the digest. -/
structure State where
  a : UInt32
  b : UInt32
  c : UInt32
  d : UInt32
  e : UInt32
  f : UInt32
  g : UInt32
  h : UInt32
deriving Repr, DecidableEq

/-- The words before the first block. -/
def State.initial : State where
  a := 0x6a09e667
  b := 0xbb67ae85
  c := 0x3c6ef372
  d := 0xa54ff53a
  e := 0x510e527f
  f := 0x9b05688c
  g := 0x1f83d9ab
  h := 0x5be0cd19

/-- Rotate a word to the right. -/
def rotate (word count : UInt32) : UInt32 :=
  (word >>> count) ||| (word <<< (32 - count))

/-- One round with a constant and a word of the schedule. -/
def State.round (s : State) (constant word : UInt32) : State :=
  let sum1 := rotate s.e 6 ^^^ rotate s.e 11 ^^^ rotate s.e 25
  let choice := (s.e &&& s.f) ^^^ (~~~s.e &&& s.g)
  let first := s.h + sum1 + choice + constant + word
  let sum0 := rotate s.a 2 ^^^ rotate s.a 13 ^^^ rotate s.a 22
  let majority := (s.a &&& s.b) ^^^ (s.a &&& s.c) ^^^ (s.b &&& s.c)
  { a := first + (sum0 + majority), b := s.a, c := s.b, d := s.c, e := s.d + first, f := s.e,
    g := s.f, h := s.g }

/-- Word-wise sum of two states. -/
def State.add (s t : State) : State :=
  { a := s.a + t.a, b := s.b + t.b, c := s.c + t.c, d := s.d + t.d, e := s.e + t.e,
    f := s.f + t.f, g := s.g + t.g, h := s.h + t.h }

/-- The next word of the schedule, from the words before it. -/
def nextWord (words : Array UInt32) : UInt32 :=
  let word (back : Nat) : UInt32 := words.getD (words.size - back) 0
  let w15 := word 15
  let w2 := word 2
  let small0 := rotate w15 7 ^^^ rotate w15 18 ^^^ (w15 >>> 3)
  let small1 := rotate w2 17 ^^^ rotate w2 19 ^^^ (w2 >>> 10)
  word 16 + small0 + word 7 + small1

/-- The sixty-four words of the schedule of a block of sixteen. -/
def schedule (block : List UInt32) : Array UInt32 :=
  (List.range 48).foldl (fun words _ => words.push (nextWord words)) block.toArray

/-- The state after one more block. -/
def State.absorb (s : State) (block : List UInt32) : State :=
  let words := schedule block
  s.add ((List.range 64).foldl (fun t i => t.round (roundConstants.getD i 0) (words.getD i 0)) s)

/-- The big-endian bytes of a number. -/
def bigEndian : Nat → Nat → List UInt8
  | 0, _ => []
  | width + 1, value => bigEndian width (value / 256) ++ [UInt8.ofNat (value % 256)]

/-- A message with a mark, zeros up to a multiple of 64 bytes less eight, and its length in bits. -/
def pad (message : List UInt8) : List UInt8 :=
  let zeros := (55 - (message.length : Int)).emod 64
  message ++ 0x80 :: List.replicate zeros.toNat 0 ++ bigEndian 8 (8 * message.length)

/-- Big-endian words of a sequence of bytes. -/
def wordsOf : List UInt8 → List UInt32
  | a :: b :: c :: d :: rest =>
      ((a.toUInt32 <<< 24) ||| (b.toUInt32 <<< 16) ||| (c.toUInt32 <<< 8) ||| d.toUInt32) ::
        wordsOf rest
  | _ => []

/-- Absorb a number of blocks of sixteen words. -/
def absorbBlocks : Nat → State → List UInt32 → State
  | 0, s, _ => s
  | blocks + 1, s, words => absorbBlocks blocks (s.absorb (words.take 16)) (words.drop 16)

/-- The lower-case hexadecimal digest of a sequence of bytes. -/
def sha256 (message : List UInt8) : String :=
  let words := wordsOf (pad message)
  let s := absorbBlocks (words.length / 16) State.initial words
  String.ofList ([s.a, s.b, s.c, s.d, s.e, s.f, s.g, s.h].flatMap fun word =>
    Text.hexDigits 8 word.toNat)

end TapeMultiplier.Digest
