import Mathlib.Data.UInt
import UIoT.Lib.BlockHash

/-!
# SHA-256 and HMAC

The hash function as its standard states it: a message is padded to whole blocks of 64 bytes, and the
blocks are compressed in turn. Words are big-endian, and the schedule of a block is given by its
recurrence. The length of a message counts bits in 64 bits.

`hmac` is the keyed hash over any hash function.
-/

set_option autoImplicit false

namespace UIoT.Sha256

/-! ## Functions on words -/

def ch (x y z : UInt32) : UInt32 := (x &&& y) ^^^ (~~~x &&& z)

def maj (x y z : UInt32) : UInt32 := (x &&& y) ^^^ (x &&& z) ^^^ (y &&& z)

/-- Rotation to the right. -/
def rotr (n x : UInt32) : UInt32 := x >>> n ||| x <<< (32 - n)

def bigSigma0 (x : UInt32) : UInt32 := rotr 2 x ^^^ rotr 13 x ^^^ rotr 22 x
def bigSigma1 (x : UInt32) : UInt32 := rotr 6 x ^^^ rotr 11 x ^^^ rotr 25 x
def smallSigma0 (x : UInt32) : UInt32 := rotr 7 x ^^^ rotr 18 x ^^^ x >>> 3
def smallSigma1 (x : UInt32) : UInt32 := rotr 17 x ^^^ rotr 19 x ^^^ x >>> 10

/-- The first 32 bits of the fractional parts of the cube roots of the first 64 primes. -/
def constants : List UInt32 :=
  [ 0x428a2f98, 0x71374491, 0xb5c0fbcf, 0xe9b5dba5, 0x3956c25b, 0x59f111f1, 0x923f82a4, 0xab1c5ed5,
    0xd807aa98, 0x12835b01, 0x243185be, 0x550c7dc3, 0x72be5d74, 0x80deb1fe, 0x9bdc06a7, 0xc19bf174,
    0xe49b69c1, 0xefbe4786, 0x0fc19dc6, 0x240ca1cc, 0x2de92c6f, 0x4a7484aa, 0x5cb0a9dc, 0x76f988da,
    0x983e5152, 0xa831c66d, 0xb00327c8, 0xbf597fc7, 0xc6e00bf3, 0xd5a79147, 0x06ca6351, 0x14292967,
    0x27b70a85, 0x2e1b2138, 0x4d2c6dfc, 0x53380d13, 0x650a7354, 0x766a0abb, 0x81c2c92e, 0x92722c85,
    0xa2bfe8a1, 0xa81a664b, 0xc24b8b70, 0xc76c51a3, 0xd192e819, 0xd6990624, 0xf40e3585, 0x106aa070,
    0x19a4c116, 0x1e376c08, 0x2748774c, 0x34b0bcb5, 0x391c0cb3, 0x4ed8aa4a, 0x5b9cca4f, 0x682e6ff3,
    0x748f82ee, 0x78a5636f, 0x84c87814, 0x8cc70208, 0x90befffa, 0xa4506ceb, 0xbef9a3f7, 0xc67178f2 ]

/-! ## Words and bytes -/

/-- A word from its bytes, the highest one first. -/
def ofBytes (b₀ b₁ b₂ b₃ : UInt8) : UInt32 :=
  b₀.toUInt32 <<< 24 ||| b₁.toUInt32 <<< 16 ||| b₂.toUInt32 <<< 8 ||| b₃.toUInt32

/-- The bytes of a word, the highest one first. -/
def toBytes (word : UInt32) : List UInt8 :=
  [(word >>> 24).toUInt8, (word >>> 16).toUInt8, (word >>> 8).toUInt8, word.toUInt8]

/-- The word of a block with some index. -/
def wordAt (block : List UInt8) (t : Nat) : UInt32 :=
  ofBytes (block.getD (4 * t) 0) (block.getD (4 * t + 1) 0) (block.getD (4 * t + 2) 0)
    (block.getD (4 * t + 3) 0)

/-! ## Compression -/

/-- The message schedule. -/
def schedule (block : List UInt8) (t : Nat) : UInt32 :=
  if t < 16 then wordAt block t
  else
    smallSigma1 (schedule block (t - 2)) + schedule block (t - 7) +
      smallSigma0 (schedule block (t - 15)) + schedule block (t - 16)
  termination_by t

/-- The working variables, and a hash value. -/
structure Words where
  a : UInt32
  b : UInt32
  c : UInt32
  d : UInt32
  e : UInt32
  f : UInt32
  g : UInt32
  h : UInt32
  deriving DecidableEq, Repr

/-- The first 32 bits of the fractional parts of the square roots of the first eight primes. -/
def initial : Words :=
  ⟨0x6a09e667, 0xbb67ae85, 0x3c6ef372, 0xa54ff53a, 0x510e527f, 0x9b05688c, 0x1f83d9ab, 0x5be0cd19⟩

/-- One round with its constant and its word. -/
def round (v : Words) (constant word : UInt32) : Words :=
  let t₁ := v.h + bigSigma1 v.e + ch v.e v.f v.g + constant + word
  let t₂ := bigSigma0 v.a + maj v.a v.b v.c
  { a := t₁ + t₂, b := v.a, c := v.b, d := v.c, e := v.d + t₁, f := v.e, g := v.f, h := v.g }

/-- The first rounds. -/
def rounds (block : List UInt8) (v : Words) : Nat → Words
  | 0 => v
  | t + 1 => round (rounds block v t) (constants.getD t 0) (schedule block t)

def Words.add (v w : Words) : Words :=
  ⟨v.a + w.a, v.b + w.b, v.c + w.c, v.d + w.d, v.e + w.e, v.f + w.f, v.g + w.g, v.h + w.h⟩

def compress (hash : Words) (block : List UInt8) : Words := hash.add (rounds block hash 64)

/-! ## Hashing -/

/-- The length of a message in bits, as a big-endian number of 64 bits. -/
def bitLength (length : Nat) : List UInt8 :=
  toBytes (UInt32.ofNat (8 * length / 2 ^ 32)) ++ toBytes (UInt32.ofNat (8 * length))

/-- What a message of some length is padded with. -/
def padding (length : Nat) : List UInt8 := BlockHash.closing length ++ bitLength length

def Words.digest (v : Words) : List UInt8 :=
  toBytes v.a ++ toBytes v.b ++ toBytes v.c ++ toBytes v.d ++ toBytes v.e ++ toBytes v.f ++
    toBytes v.g ++ toBytes v.h

/-- The hash of a message. -/
def hash (message : List UInt8) : List UInt8 :=
  (BlockHash.absorb 64 compress initial (message ++ padding message.length)).1.digest

/-- A padded message has whole blocks. -/
theorem padded_length (message : List UInt8) :
    (message ++ padding message.length).length % 64 = 0 := by
  have whole := BlockHash.closing_length message.length
  have eight : (bitLength message.length).length = 8 := rfl
  rw [padding, List.length_append, List.length_append, eight, ← Nat.add_assoc, whole]

theorem hash_length (message : List UInt8) : (hash message).length = 32 := rfl

/-! ## Keyed hashing -/

/-- A key of the size of a block: a longer one is hashed first. -/
def blockKey (hash : List UInt8 → List UInt8) (size : Nat) (key : List UInt8) : List UInt8 :=
  let key := if key.length ≤ size then key else hash key
  key ++ List.replicate (size - key.length) 0

/-- The keyed hash of a message over a hash function with blocks of some size. -/
def hmac (hash : List UInt8 → List UInt8) (size : Nat) (key message : List UInt8) : List UInt8 :=
  let key := blockKey hash size key
  hash (key.map (· ^^^ 0x5c) ++ hash (key.map (· ^^^ 0x36) ++ message))

end UIoT.Sha256
