/-
Digits in base 16, small or capital, the numbers they denote, and the
bytes that pairs of them denote.
-/

namespace Clearance.Text

/-- The value of a digit in base 16. -/
def hexValue? (c : Char) : Option Nat :=
  if c.isDigit then some (c.toNat - '0'.toNat)
  else if 'a' ≤ c && c ≤ 'f' then some (c.toNat - 'a'.toNat + 10)
  else if 'A' ≤ c && c ≤ 'F' then some (c.toNat - 'A'.toNat + 10)
  else none

/-- Whether a character is a digit in base 16. -/
def isHexDigit (c : Char) : Bool := (hexValue? c).isSome

/-- The number that digits in base 16 denote. -/
def ofHex? (ds : List Char) : Option Nat :=
  ds.foldlM (fun n c => (hexValue? c).map (16 * n + ·)) 0

/-- The bytes that pairs of digits in base 16 denote. -/
def bytesOfHex? : List Char → Option (List UInt8)
  | [] => some []
  | [_] => none
  | a :: b :: rest => do
    let byte ← ofHex? [a, b]
    (bytesOfHex? rest).map (byte.toUInt8 :: ·)

/-- The text of bytes in base 16, two small digits a byte. -/
def hexOfBytes (bytes : List UInt8) : String :=
  String.ofList (bytes.flatMap fun b =>
    [Nat.digitChar (b.toNat / 16), Nat.digitChar (b.toNat % 16)])

end Clearance.Text
