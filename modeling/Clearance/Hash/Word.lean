/-
Words of 32 bits and the bytes they are written as, and cutting a list
into pieces of one length, the last of which may be shorter.
-/

namespace Clearance.Hash

/-- The word with its bits moved to the right, those that fall out coming
back on the left. -/
def rotateRight (x : UInt32) (n : UInt32) : UInt32 := (x >>> n) ||| (x <<< (32 - n))

/-- The number of some bytes, the highest first. -/
def ofBigEndian (bytes : List UInt8) : UInt32 :=
  bytes.foldl (fun n b => (n <<< 8) ||| b.toUInt32) 0

/-- The number of some bytes, the lowest first. -/
def ofLittleEndian (bytes : List UInt8) : UInt32 := ofBigEndian bytes.reverse

/-- The bytes of a word, the lowest first. -/
def toLittleEndian (x : UInt32) : List UInt8 :=
  [x.toUInt8, (x >>> 8).toUInt8, (x >>> 16).toUInt8, (x >>> 24).toUInt8]

/-- The bytes of a word, the highest first. -/
def toBigEndian (x : UInt32) : List UInt8 := (toLittleEndian x).reverse

/-- A list cut into pieces of `n + 1` elements. -/
def pieces {α : Type} (n : Nat) (xs : List α) : List (List α) :=
  if h : xs = [] then [] else xs.take (n + 1) :: pieces n (xs.drop (n + 1))
termination_by xs.length
decreasing_by
  have := List.length_pos_iff.2 h
  simp only [List.length_drop]
  omega

end Clearance.Hash
