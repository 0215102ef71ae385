/-
SHA-256. The message is padded to a whole number of blocks of 64 bytes;
each block is spread over 64 words, which one after another are mixed
into a state of eight words.
-/
import Clearance.Hash.Word

namespace Clearance.Hash.Sha256

/-- The eight words of the state. -/
structure State where
  a : UInt32
  b : UInt32
  c : UInt32
  d : UInt32
  e : UInt32
  f : UInt32
  g : UInt32
  h : UInt32

/-- The state before the first block. -/
def State.start : State :=
  ⟨0x6a09e667, 0xbb67ae85, 0x3c6ef372, 0xa54ff53a,
    0x510e527f, 0x9b05688c, 0x1f83d9ab, 0x5be0cd19⟩

/-- The constants of the 64 rounds. -/
def constants : List UInt32 :=
  [
    0x428a2f98, 0x71374491, 0xb5c0fbcf, 0xe9b5dba5, 0x3956c25b, 0x59f111f1,
    0x923f82a4, 0xab1c5ed5, 0xd807aa98, 0x12835b01, 0x243185be, 0x550c7dc3,
    0x72be5d74, 0x80deb1fe, 0x9bdc06a7, 0xc19bf174, 0xe49b69c1, 0xefbe4786,
    0x0fc19dc6, 0x240ca1cc, 0x2de92c6f, 0x4a7484aa, 0x5cb0a9dc, 0x76f988da,
    0x983e5152, 0xa831c66d, 0xb00327c8, 0xbf597fc7, 0xc6e00bf3, 0xd5a79147,
    0x06ca6351, 0x14292967, 0x27b70a85, 0x2e1b2138, 0x4d2c6dfc, 0x53380d13,
    0x650a7354, 0x766a0abb, 0x81c2c92e, 0x92722c85, 0xa2bfe8a1, 0xa81a664b,
    0xc24b8b70, 0xc76c51a3, 0xd192e819, 0xd6990624, 0xf40e3585, 0x106aa070,
    0x19a4c116, 0x1e376c08, 0x2748774c, 0x34b0bcb5, 0x391c0cb3, 0x4ed8aa4a,
    0x5b9cca4f, 0x682e6ff3, 0x748f82ee, 0x78a5636f, 0x84c87814, 0x8cc70208,
    0x90befffa, 0xa4506ceb, 0xbef9a3f7, 0xc67178f2
  ]

-- ============================================================== blocks

/-- The padding of a message of `n` bytes: one bit, zeros, and the number
of bits in eight bytes. -/
def padding (n : Nat) : List UInt8 :=
  let size := UInt64.ofNat (8 * n)
  (0x80 : UInt8) :: List.replicate ((119 - n % 64) % 64) 0
    ++ toBigEndian (size >>> 32).toUInt32 ++ toBigEndian size.toUInt32

/-- One more word of a schedule. -/
def extend (words : Array UInt32) : Array UInt32 :=
  let word (back : Nat) := words.getD (words.size - back) 0
  let x := word 15
  let y := word 2
  let mixX := rotateRight x 7 ^^^ rotateRight x 18 ^^^ (x >>> 3)
  let mixY := rotateRight y 17 ^^^ rotateRight y 19 ^^^ (y >>> 10)
  words.push (word 16 + mixX + word 7 + mixY)

/-- The 64 words of a block. -/
def schedule (block : List UInt8) : List UInt32 :=
  ((List.range 48).foldl (fun words _ => extend words)
    ((pieces 3 block).map ofBigEndian).toArray).toList

-- ============================================================== rounds

/-- One round, with the constant and the word of the schedule added up. -/
def round (s : State) (word : UInt32) : State :=
  let mixE := rotateRight s.e 6 ^^^ rotateRight s.e 11 ^^^ rotateRight s.e 25
  let choice := (s.e &&& s.f) ^^^ (~~~s.e &&& s.g)
  let first := s.h + mixE + choice + word
  let mixA := rotateRight s.a 2 ^^^ rotateRight s.a 13 ^^^ rotateRight s.a 22
  let majority := (s.a &&& s.b) ^^^ (s.a &&& s.c) ^^^ (s.b &&& s.c)
  ⟨first + mixA + majority, s.a, s.b, s.c, s.d + first, s.e, s.f, s.g⟩

/-- The state after a block. -/
def compress (s : State) (block : List UInt8) : State :=
  let t := (List.zipWith (· + ·) constants (schedule block)).foldl round s
  ⟨s.a + t.a, s.b + t.b, s.c + t.c, s.d + t.d, s.e + t.e, s.f + t.f, s.g + t.g, s.h + t.h⟩

/-- The 32 bytes of the hash of a message. -/
def hash (message : List UInt8) : List UInt8 :=
  let s := (pieces 63 (message ++ padding message.length)).foldl compress .start
  [s.a, s.b, s.c, s.d, s.e, s.f, s.g, s.h].flatMap toBigEndian

end Clearance.Hash.Sha256
