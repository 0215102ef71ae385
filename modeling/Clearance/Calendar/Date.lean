/-
Days of the proleptic Gregorian calendar, from the start of the year
-262143 to the end of the year 262142, written as year, month and day.

A written date has four year digits; years before 0 and after 9999 carry
a sign. Reading is more generous: months and days may have one digit, and
blanks may stand around the three parts. A year with a sign may have any
number of digits, one without a sign at most four.
-/
import Clearance.Decimal.Numeral
import Clearance.Text.Blank

namespace Clearance

/-- Whether the year has a 29th of February. -/
def isLeapYear (year : Int) : Bool :=
  year % 4 == 0 && (year % 100 != 0 || year % 400 == 0)

/-- The number of days of a month; there is no month 0 and no month 13. -/
def daysInMonth (year : Int) (month : Nat) : Nat :=
  match month with
  | 1 | 3 | 5 | 7 | 8 | 10 | 12 => 31
  | 4 | 6 | 9 | 11 => 30
  | 2 => if isLeapYear year then 29 else 28
  | _ => 0

/-- Whether the three numbers name a day of the calendar. -/
def isDay (year : Int) (month day : Nat) : Bool :=
  -262143 ≤ year && year ≤ 262142 && 1 ≤ day && day ≤ daysInMonth year month

/-- A day. -/
structure Date where
  year : Int
  month : Nat
  day : Nat
  valid : isDay year month day = true
  deriving DecidableEq

namespace Date

/-- The day that three numbers name. -/
def of? (year : Int) (month day : Nat) : Option Date :=
  if h : isDay year month day = true then some ⟨year, month, day, h⟩ else none

-- ================================================================ order

/-- A number that grows with the date: 31 days are counted to every month. -/
def ordinal (d : Date) : Int :=
  (d.year * 12 + Int.ofNat d.month) * 31 + Int.ofNat d.day

instance : LT Date := ⟨fun a b => a.ordinal < b.ordinal⟩
instance : LE Date := ⟨fun a b => a.ordinal ≤ b.ordinal⟩
instance (a b : Date) : Decidable (a < b) :=
  inferInstanceAs (Decidable (a.ordinal < b.ordinal))
instance (a b : Date) : Decidable (a ≤ b) :=
  inferInstanceAs (Decidable (a.ordinal ≤ b.ordinal))

/-- The later of two days. -/
def later (a b : Date) : Date := if a < b then b else a

/-- The latest of some days. -/
def latest? : List Date → Option Date
  | [] => none
  | d :: ds => some (ds.foldl later d)

/-- The earlier of two days. -/
def earlier (a b : Date) : Date := if b < a then b else a

-- ============================================================== writing

/-- The digits of `n`, with zeros in front up to `width` characters. -/
def padded (width n : Nat) : List Char :=
  let ds := Nat.toDigits 10 n
  List.replicate (width - ds.length) '0' ++ ds

/-- The written form of a day. -/
def render (d : Date) : String :=
  let sign := if d.year < 0 then ['-'] else if 9999 < d.year then ['+'] else []
  String.ofList (sign ++ padded 4 d.year.natAbs ++ '-' :: padded 2 d.month
    ++ '-' :: padded 2 d.day)

-- ============================================================== reading

open Text Decimal

/-- A number of one to `width` digits at the front, and the rest. -/
def readNumber? (width : Nat) (cs : List Char) : Option (Nat × List Char) :=
  let ds := (cs.take width).takeWhile Char.isDigit
  if ds.isEmpty then none else some (ofDigits ds, cs.drop ds.length)

/-- A year at the front: with a sign all digits that follow, without one
at most four. -/
def readYear? : List Char → Option (Int × List Char)
  | '-' :: cs => (readNumber? cs.length cs).map fun (n, rest) => (-Int.ofNat n, rest)
  | '+' :: cs => (readNumber? cs.length cs).map fun (n, rest) => (Int.ofNat n, rest)
  | cs => (readNumber? 4 cs).map fun (n, rest) => (Int.ofNat n, rest)

/-- What follows a dash that may have blanks around it. -/
def skipDash? (cs : List Char) : Option (List Char) :=
  match trimStartChars cs with
  | '-' :: rest => some (trimStartChars rest)
  | _ => none

/-- A whole text as a day. -/
def read? (s : String) : Option Date := do
  let (year, cs) ← readYear? (trimStartChars s.toList)
  let (month, cs) ← readNumber? 2 (← skipDash? cs)
  let (day, cs) ← readNumber? 2 (← skipDash? cs)
  if cs.all isBlank then of? year month day else none

end Date

end Clearance
