/-
BLAKE3 without a key. The message is cut into chunks of 1024 bytes, the
leaves of a binary tree whose left subtrees are complete. A node of the
tree is a compression that has not been done yet: an inner node does it
to get the value for its parent, and the root does it to get the hash.
-/
import Clearance.Hash.Word

namespace Clearance.Hash.Blake3

/-- A compression to be done. -/
structure Node where
  /-- The eight words that go in. -/
  input : List UInt32
  /-- The sixteen words of the block. -/
  block : List UInt32
  /-- The number of the chunk; zero for inner nodes. -/
  counter : Nat
  /-- How many bytes of the block count. -/
  size : Nat
  flags : UInt32

/-- The words that go into the first block of a chunk and into inner
nodes. -/
def start : List UInt32 :=
  [0x6a09e667, 0xbb67ae85, 0x3c6ef372, 0xa54ff53a,
    0x510e527f, 0x9b05688c, 0x1f83d9ab, 0x5be0cd19]

/-- The flag of the first block of a chunk. -/
def chunkStart : UInt32 := 1

/-- The flag of the last block of a chunk. -/
def chunkEnd : UInt32 := 2

/-- The flag of an inner node. -/
def parent : UInt32 := 4

/-- The flag of the root. -/
def root : UInt32 := 8

-- ========================================================= compressing

/-- Mixes two words into four words of the state. -/
def mix (s : Array UInt32) (a b c d : Nat) (x y : UInt32) : Array UInt32 :=
  let va := s.getD a 0 + s.getD b 0 + x
  let vd := rotateRight (s.getD d 0 ^^^ va) 16
  let vc := s.getD c 0 + vd
  let vb := rotateRight (s.getD b 0 ^^^ vc) 12
  let va := va + vb + y
  let vd := rotateRight (vd ^^^ va) 8
  let vc := vc + vd
  let vb := rotateRight (vb ^^^ vc) 7
  (((s.setIfInBounds a va).setIfInBounds b vb).setIfInBounds c vc).setIfInBounds d vd

/-- The words of the state that are mixed together: the columns of a square
of four, then its diagonals. -/
def groups : List (Nat × Nat × Nat × Nat) :=
  [(0, 4, 8, 12), (1, 5, 9, 13), (2, 6, 10, 14), (3, 7, 11, 15),
    (0, 5, 10, 15), (1, 6, 11, 12), (2, 7, 8, 13), (3, 4, 9, 14)]

/-- Where the words of a block go between two rounds. -/
def order : List Nat := [2, 6, 3, 10, 7, 0, 4, 13, 1, 11, 12, 5, 9, 14, 15, 8]

/-- One round: the words of the block two by two, each pair with a group. -/
def round (s block : Array UInt32) : Array UInt32 :=
  ((List.range 8).zip groups).foldl
    (fun s (i, a, b, c, d) => mix s a b c d (block.getD (2 * i) 0) (block.getD (2 * i + 1) 0)) s

/-- Some rounds with the words in new order for each. -/
def rounds : Nat → Array UInt32 → Array UInt32 → Array UInt32
  | 0, s, _ => s
  | n + 1, s, block =>
    rounds n (round s block) (order.map fun i => block.getD i 0).toArray

/-- The eight words that come out of a compression. -/
def Node.compress (n : Node) (flags : UInt32) : List UInt32 :=
  let counter := UInt64.ofNat n.counter
  let state := n.input ++ start.take 4
    ++ [counter.toUInt32, (counter >>> 32).toUInt32, UInt32.ofNat n.size, n.flags ||| flags]
  let s := (rounds 7 state.toArray n.block.toArray).toList
  List.zipWith (· ^^^ ·) (s.take 8) (s.drop 8)

-- ============================================================ the tree

/-- The sixteen words of up to 64 bytes; missing bytes are zero. -/
def blockWords (bytes : List UInt8) : List UInt32 :=
  (pieces 3 (bytes ++ List.replicate (64 - bytes.length) 0)).map ofLittleEndian

/-- The last compression of a chunk, from the one before it. -/
def chunkFrom (counter : Nat) (input : List UInt32) (flags : UInt32) :
    List (List UInt8) → Node
  | [] => ⟨input, blockWords [], counter, 0, flags ||| chunkEnd⟩
  | [last] => ⟨input, blockWords last, counter, last.length, flags ||| chunkEnd⟩
  | block :: rest =>
    chunkFrom counter ((⟨input, blockWords block, counter, 64, flags⟩ : Node).compress 0) 0 rest

/-- The leaf of a chunk. -/
def chunk (counter : Nat) (bytes : List UInt8) : Node :=
  chunkFrom counter start chunkStart (pieces 63 bytes)

/-- How many of `n` chunks are in the left subtree: the largest power of
two below `n`. -/
def leftSize (n : Nat) : Nat := Nat.pow 2 (n - 1).log2

/-- The left subtree holds a chunk. -/
theorem leftSize_pos (n : Nat) : 0 < leftSize n := Nat.two_pow_pos _

/-- The left subtree does not hold all of several chunks. -/
theorem leftSize_lt {n : Nat} (h : 2 ≤ n) : leftSize n < n := by
  have := Nat.log2_self_le (n := n - 1) (by omega)
  rw [leftSize, Nat.pow_eq]
  omega

/-- The root of the tree over some chunks, which are numbered from
`counter`. -/
def tree (counter : Nat) : List (List UInt8) → Node
  | [] => chunk counter []
  | [bytes] => chunk counter bytes
  | a :: b :: rest =>
    let chunks := a :: b :: rest
    let size := leftSize chunks.length
    let left := (tree counter (chunks.take size)).compress 0
    let right := (tree (counter + size) (chunks.drop size)).compress 0
    ⟨start, left ++ right, 0, 64, parent⟩
termination_by chunks => chunks.length
decreasing_by
  · have := leftSize_lt (n := (a :: b :: rest).length) (by simp)
    simp only [List.length_take]
    omega
  · have := leftSize_pos (a :: b :: rest).length
    simp only [List.length_drop, List.length_cons] at *
    omega

/-- The 32 bytes of the hash of a message. -/
def hash (message : List UInt8) : List UInt8 :=
  ((tree 0 (pieces 1023 message)).compress root).flatMap toLittleEndian

end Clearance.Hash.Blake3
