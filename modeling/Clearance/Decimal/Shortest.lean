/-
Shortest decimal texts of binary floating-point numbers.

A positive finite number is m · 2^q. The reals that round to it form an
interval around it, whose ends belong to it when m is even. Among the
decimal grids 10^e, the coarsest one with a point in that interval gives
the fewest digits; of two points of that grid the nearer one is taken,
and a `Tie` decides between two equally near ones. All of this is exact
arithmetic on natural numbers.

`Style` holds what one output format decides on its own: where positional
writing ends, what a whole number ends with, and how ties go.
-/

namespace Clearance.Decimal

-- ==================================================== numbers in binary

/-- A floating-point number taken apart. -/
inductive Parts where
  | nan
  | infinite (negative : Bool)
  /-- `mantissa · 2 ^ exponent`; `stepDown` says that the next number
  below is only half a step away. -/
  | finite (negative : Bool) (mantissa : Nat) (exponent : Int) (stepDown : Bool)

/-- The parts of a number, read off its bits. -/
def Parts.ofFloat (x : Float) : Parts :=
  let bits := x.toBits.toNat
  let negative := bits / Nat.pow 2 63 == 1
  let biased := bits / Nat.pow 2 52 % 2048
  let fraction := bits % Nat.pow 2 52
  if biased == 2047 then
    if fraction == 0 then .infinite negative else .nan
  else if biased == 0 then .finite negative fraction (-1074) false
  else .finite negative (Nat.pow 2 52 + fraction) (Int.ofNat biased - 1075)
    (fraction == 0 && biased != 1)

-- =============================================== the rounding interval

/-- How a tie between two neighbouring grid points goes. -/
inductive Tie where
  | toEven
  | upward

/-- A number and the ends of the interval that rounds to it, over one
denominator. -/
structure Bracket where
  low : Nat
  value : Nat
  high : Nat
  denominator : Nat
  closed : Bool

/-- The bracket of `mantissa · 2 ^ exponent`, in quarters of a step. -/
def Bracket.of (mantissa : Nat) (exponent : Int) (stepDown : Bool) : Bracket :=
  let scale := Nat.pow 2 (exponent - 2).toNat
  { low := (4 * mantissa - if stepDown then 1 else 2) * scale
    value := 4 * mantissa * scale
    high := (4 * mantissa + 2) * scale
    denominator := Nat.pow 2 (2 - exponent).toNat
    closed := mantissa % 2 == 0 }

/-- The point of the grid `10 ^ e` in the bracket that is nearest to the
value, as a multiple of `10 ^ e`. Zero is no point of a grid. -/
def Bracket.hit? (tie : Tie) (b : Bracket) (e : Int) : Option Nat :=
  let unit := b.denominator * Nat.pow 10 e.toNat
  let finer := Nat.pow 10 (-e).toNat
  let below := b.value * finer / unit
  let inside (n : Nat) : Bool :=
    let point := n * unit
    n != 0 && if b.closed then b.low * finer ≤ point && point ≤ b.high * finer
      else b.low * finer < point && point < b.high * finer
  match inside below, inside (below + 1) with
  | false, false => none
  | true, false => some below
  | false, true => some (below + 1)
  | true, true =>
    match compare (2 * b.value * finer) ((2 * below + 1) * unit), tie with
    | .lt, _ => some below
    | .gt, _ => some (below + 1)
    | .eq, .upward => some (below + 1)
    | .eq, .toEven => some (below + below % 2)

-- ==================================================== shortest decimals

/-- The decimal number `digits · 10 ^ exponent`. -/
structure Scaled where
  digits : Nat
  exponent : Int

/-- The first hit on the grids from `10 ^ e` downwards. -/
def Bracket.search (tie : Tie) (b : Bracket) : Nat → Int → Scaled
  | 0, e => ⟨b.value * Nat.pow 10 (-e).toNat / (b.denominator * Nat.pow 10 e.toNat), e⟩
  | steps + 1, e =>
    match b.hit? tie e with
    | some n => ⟨n, e⟩
    | none => b.search tie steps (e - 1)

/-- The shortest decimal that reads back as `mantissa · 2 ^ exponent`. The
search starts at a power of ten above the number, and seventeen digits
always suffice. -/
def shortest (tie : Tie) (mantissa : Nat) (exponent : Int) (stepDown : Bool) : Scaled :=
  let bits := Int.ofNat (Nat.log2 mantissa + 1) + exponent
  (Bracket.of mantissa exponent stepDown).search tie 24 (bits * 30103 / 100000 + 2)

-- ============================================================== writing

/-- What an output format decides about its numbers. -/
structure Style where
  tie : Tie
  /-- What follows the digits of a whole number. -/
  whole : String
  /-- The least and the greatest place of the decimal point, counted from
  the first digit, that are written without an exponent. -/
  positional : Option (Int × Int)

/-- The decimal digits of a natural number. -/
def digitChars (n : Nat) : List Char := Nat.toDigits 10 n

/-- Digits with the decimal point behind the first `point` of them; zeros
fill the gap on either side. -/
def withPoint (whole : List Char) (ds : List Char) (point : Int) : List Char :=
  if point ≤ 0 then ['0', '.'] ++ List.replicate (-point).toNat '0' ++ ds
  else if ds.length ≤ point.toNat then
    ds ++ List.replicate (point.toNat - ds.length) '0' ++ whole
  else ds.take point.toNat ++ '.' :: ds.drop point.toNat

/-- Digits with an exponent: one digit before the point, and a sign on
every exponent. -/
def withPower (ds : List Char) (point : Int) : List Char :=
  let fraction := match ds.drop 1 with
    | [] => []
    | rest => '.' :: rest
  let power := point - 1
  ds.take 1 ++ fraction ++ ['e', if power < 0 then '-' else '+']
    ++ digitChars power.natAbs

/-- A decimal number in a style. -/
def Style.writeScaled (style : Style) (s : Scaled) : List Char :=
  let ds := digitChars s.digits
  let point := Int.ofNat ds.length + s.exponent
  let plain := match style.positional with
    | none => true
    | some (least, greatest) => least ≤ point && point ≤ greatest
  if plain then withPoint style.whole.toList ds point else withPower ds point

/-- A floating-point number in a style: the fewest digits that read back,
after a minus when the sign bit is set. -/
def Style.write (style : Style) (x : Float) : String :=
  let sign (negative : Bool) := if negative then ['-'] else []
  match Parts.ofFloat x with
  | .nan => "NaN"
  | .infinite negative => String.ofList (sign negative ++ ['i', 'n', 'f'])
  | .finite negative 0 _ _ => String.ofList (sign negative ++ '0' :: style.whole.toList)
  | .finite negative mantissa exponent stepDown =>
    String.ofList (sign negative
      ++ style.writeScaled (shortest style.tie mantissa exponent stepDown))

end Clearance.Decimal
