import Mathlib.Data.UInt
import UIoT.Lib.BlockHash

/-!
# MD5 as its standard states it

Four rounds of sixteen steps. A step is given by its number: the round has a function and four amounts of
rotation, and the words of a block are taken in an order of its own. Words are little-endian.
-/

set_option autoImplicit false

namespace UIoT.Md5

/-! ## Functions on words -/

def funF (x y z : UInt32) : UInt32 := (x &&& y) ||| (~~~x &&& z)
def funG (x y z : UInt32) : UInt32 := (x &&& z) ||| (y &&& ~~~z)
def funH (x y z : UInt32) : UInt32 := x ^^^ y ^^^ z
def funI (x y z : UInt32) : UInt32 := y ^^^ (x ||| ~~~z)

/-- Rotation to the left. -/
def rotl (n x : UInt32) : UInt32 := x <<< n ||| x >>> (32 - n)

/-- The integer parts of 2^32 times the absolute values of the sines of 1 to 64. -/
def sines : List UInt32 :=
  [ 0xd76aa478, 0xe8c7b756, 0x242070db, 0xc1bdceee, 0xf57c0faf, 0x4787c62a, 0xa8304613, 0xfd469501,
    0x698098d8, 0x8b44f7af, 0xffff5bb1, 0x895cd7be, 0x6b901122, 0xfd987193, 0xa679438e, 0x49b40821,
    0xf61e2562, 0xc040b340, 0x265e5a51, 0xe9b6c7aa, 0xd62f105d, 0x02441453, 0xd8a1e681, 0xe7d3fbc8,
    0x21e1cde6, 0xc33707d6, 0xf4d50d87, 0x455a14ed, 0xa9e3e905, 0xfcefa3f8, 0x676f02d9, 0x8d2a4c8a,
    0xfffa3942, 0x8771f681, 0x6d9d6122, 0xfde5380c, 0xa4beea44, 0x4bdecfa9, 0xf6bb4b60, 0xbebfbc70,
    0x289b7ec6, 0xeaa127fa, 0xd4ef3085, 0x04881d05, 0xd9d4d039, 0xe6db99e5, 0x1fa27cf8, 0xc4ac5665,
    0xf4292244, 0x432aff97, 0xab9423a7, 0xfc93a039, 0x655b59c3, 0x8f0ccc92, 0xffeff47d, 0x85845dd1,
    0x6fa87e4f, 0xfe2ce6e0, 0xa3014314, 0x4e0811a1, 0xf7537e82, 0xbd3af235, 0x2ad7d2bb, 0xeb86d391 ]

/-! ## Words and bytes -/

/-- A word from its bytes, the lowest one first. -/
def ofBytes (b₀ b₁ b₂ b₃ : UInt8) : UInt32 :=
  b₀.toUInt32 ||| b₁.toUInt32 <<< 8 ||| b₂.toUInt32 <<< 16 ||| b₃.toUInt32 <<< 24

/-- The bytes of a word, the lowest one first. -/
def toBytes (word : UInt32) : List UInt8 :=
  [word.toUInt8, (word >>> 8).toUInt8, (word >>> 16).toUInt8, (word >>> 24).toUInt8]

def wordAt (block : List UInt8) (t : Nat) : UInt32 :=
  ofBytes (block.getD (4 * t) 0) (block.getD (4 * t + 1) 0) (block.getD (4 * t + 2) 0)
    (block.getD (4 * t + 3) 0)

/-! ## Compression -/

/-- The function of a step. -/
def function (step : Nat) : UInt32 → UInt32 → UInt32 → UInt32 :=
  if step < 16 then funF else if step < 32 then funG else if step < 48 then funH else funI

/-- The index of the word that a step takes. -/
def index (step : Nat) : Nat :=
  if step < 16 then step
  else if step < 32 then (5 * step + 1) % 16
  else if step < 48 then (3 * step + 5) % 16
  else 7 * step % 16

/-- The amount of rotation. -/
def amount (step : Nat) : UInt32 :=
  let amounts : List UInt32 :=
    if step < 16 then [7, 12, 17, 22]
    else if step < 32 then [5, 9, 14, 20]
    else if step < 48 then [4, 11, 16, 23]
    else [6, 10, 15, 21]
  amounts.getD (step % 4) 0

structure Words where
  a : UInt32
  b : UInt32
  c : UInt32
  d : UInt32
  deriving DecidableEq, Repr

def initial : Words := ⟨0x67452301, 0xefcdab89, 0x98badcfe, 0x10325476⟩

/-- One step on a block. -/
def stepOn (block : List UInt8) (v : Words) (step : Nat) : Words :=
  let sum := v.a + function step v.b v.c v.d + wordAt block (index step) + sines.getD step 0
  { a := v.d, b := v.b + rotl (amount step) sum, c := v.b, d := v.c }

def Words.add (v w : Words) : Words := ⟨v.a + w.a, v.b + w.b, v.c + w.c, v.d + w.d⟩

def compress (hash : Words) (block : List UInt8) : Words :=
  hash.add ((List.range 64).foldl (stepOn block) hash)

/-! ## Hashing -/

/-- The length of a message in bits, as a little-endian number of 64 bits. -/
def bitLength (length : Nat) : List UInt8 :=
  toBytes (UInt32.ofNat (8 * length)) ++ toBytes (UInt32.ofNat (8 * length / 2 ^ 32))

/-- What a message of some length is padded with. -/
def padding (length : Nat) : List UInt8 := BlockHash.closing length ++ bitLength length

def Words.digest (v : Words) : List UInt8 := toBytes v.a ++ toBytes v.b ++ toBytes v.c ++ toBytes v.d

/-- The hash of a message. -/
def hash (message : List UInt8) : List UInt8 :=
  (BlockHash.absorb 64 compress initial (message ++ padding message.length)).1.digest

end UIoT.Md5
