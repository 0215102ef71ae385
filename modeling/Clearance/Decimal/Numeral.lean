/-
Decimal numerals: an optional sign, digits with at most one point among
them, and an optional power of ten. `Numeral.read?` accepts a whole text
of that form, and `Numeral.toFloat` is the floating-point number nearest
to what it denotes.
-/

namespace Clearance.Decimal

/-- The number `digits · 10 ^ exponent`, with a sign of its own. -/
structure Numeral where
  negative : Bool
  digits : Nat
  exponent : Int

/-- The number that a run of digits denotes. -/
def ofDigits (ds : List Char) : Nat :=
  ds.foldl (fun n c => 10 * n + (c.toNat - '0'.toNat)) 0

/-- The digits at the front, and the rest. -/
def spanDigits (cs : List Char) : List Char × List Char :=
  (cs.takeWhile Char.isDigit, cs.dropWhile Char.isDigit)

/-- Whether a sign at the front is a minus, and what follows the sign. -/
def spanSign : List Char → Bool × List Char
  | '-' :: cs => (true, cs)
  | '+' :: cs => (false, cs)
  | cs => (false, cs)

/-- A power of ten at the end of a numeral; without one it is zero. -/
def readPower? : List Char → Option Int
  | [] => some 0
  | c :: cs =>
    if c == 'e' || c == 'E' then
      let (negative, cs) := spanSign cs
      let (ds, rest) := spanDigits cs
      if ds.isEmpty || !rest.isEmpty then none
      else some (if negative then -Int.ofNat (ofDigits ds) else Int.ofNat (ofDigits ds))
    else none

/-- A whole text as a numeral. The point may stand before the first digit
or after the last one, but there must be a digit. -/
def Numeral.read? (cs : List Char) : Option Numeral :=
  let (negative, cs) := spanSign cs
  let (units, cs) := spanDigits cs
  let (fraction, cs) := match cs with
    | '.' :: cs => spanDigits cs
    | cs => ([], cs)
  if units.isEmpty && fraction.isEmpty then none
  else (readPower? cs).map fun power =>
    ⟨negative, ofDigits (units ++ fraction), power - Int.ofNat fraction.length⟩

/-- The floating-point number nearest to a numeral, a tie going to the
even neighbour; too large a number is infinite. -/
def Numeral.toFloat (n : Numeral) : Float :=
  let size := Int.ofNat (Nat.toDigits 10 n.digits).length + n.exponent
  let magnitude : Float :=
    if n.digits == 0 || size < -400 then 0.0
    else if size > 400 then 1.0 / 0.0
    else Float.ofScientific n.digits (n.exponent < 0) n.exponent.natAbs
  if n.negative then -magnitude else magnitude

end Clearance.Decimal
