/-
Reading JSON texts. The grammar is the usual one: no comments, no comma
before a closing bracket, no zero before other digits, no control
characters inside texts.

Some leaves are well formed and still denote nothing: a number that is
too large, and a text with half of a surrogate pair. They are read as
`unreadable`, a not-a-number, so that a reader that skips them does not
fail and one that looks at them does.

A number without a point or an exponent is whole as long as it fits in 64
bits. The others are read digit by digit into a significand of 64 bits,
which is then multiplied or divided by one power of ten at a time; digits
that no longer fit count as zeros.
-/
import Clearance.Decimal.Numeral
import Clearance.Json.Basic
import Clearance.Text.Hex
import Clearance.Text.Quoted

namespace Clearance.Json

open Decimal (spanDigits spanSign ofDigits)

/-- A leaf that denotes nothing. -/
def unreadable : Json := .real (0.0 / 0.0)

-- ============================================================== numbers

/-- A significand with further digits, as long as it stays below 2^64, and
how many digits were left out. -/
def accumulate (significand : Nat) : List Char → Nat × Nat
  | [] => (significand, 0)
  | d :: ds =>
    let next := 10 * significand + ofDigits [d]
    if next < Nat.pow 2 64 then accumulate next ds else (significand, ds.length + 1)

/-- A number divided by a power of ten, 308 places at a time. -/
def divideByPower : Nat → Float → Nat → Float
  | 0, x, _ => x
  | steps + 1, x, e =>
    if e ≤ 308 then x / Float.ofScientific 1 false e
    else divideByPower steps (x / 1e308) (e - 308)

/-- `significand · 10 ^ exponent`, by floating-point multiplication or
division. -/
def scale (significand : Nat) (exponent : Int) : Float :=
  let x := significand.toUInt64.toFloat
  if exponent < 0 then divideByPower 4 x exponent.natAbs
  else if exponent ≤ 308 then x * Float.ofScientific 1 false exponent.natAbs
  else if significand == 0 then x
  else 1.0 / 0.0

/-- A floating-point number, which must be finite. -/
def finite (negative : Bool) (x : Float) : Json :=
  if x.isFinite then .real (if negative then -x else x) else unreadable

/-- The value of a number from its digits before and after the point and
its power of ten. -/
def ofNumber (negative : Bool) (units : List Char) (fraction : Option (List Char))
    (power : Option Int) : Json :=
  let (significand, dropped) := accumulate 0 units
  match fraction, power with
  | none, none =>
    if dropped != 0 then finite negative (scale significand dropped)
    else if !negative then .integer significand
    else if significand == 0 || Nat.pow 2 63 < significand then
      finite true significand.toUInt64.toFloat
    else .integer (-Int.ofNat significand)
  | _, _ =>
    let places := fraction.getD []
    let (significand, ignored) := accumulate significand places
    let shift := Int.ofNat dropped - Int.ofNat (places.length - ignored)
    finite negative (scale significand (shift + power.getD 0))

/-- The digits after a point, if there is one; a point needs a digit. -/
def readFraction? : List Char → Option (Option (List Char) × List Char)
  | '.' :: cs =>
    let (ds, rest) := spanDigits cs
    if ds.isEmpty then none else some (some ds, rest)
  | cs => some (none, cs)

/-- A power of ten, if there is one; it needs a digit. -/
def readExponent? : List Char → Option (Option Int × List Char)
  | [] => some (none, [])
  | c :: cs =>
    if c == 'e' || c == 'E' then
      let (negative, cs) := spanSign cs
      let (ds, rest) := spanDigits cs
      if ds.isEmpty then none
      else
        let n := Int.ofNat (ofDigits ds)
        some (some (if negative then -n else n), rest)
    else some (none, c :: cs)

/-- A number at the front of a text. -/
def readNumber? (cs : List Char) : Option (Json × List Char) := do
  let (negative, cs) := match cs with
    | '-' :: cs => (true, cs)
    | cs => (false, cs)
  let (units, cs) := spanDigits cs
  if units.isEmpty || (units.head? == some '0' && units.length != 1) then none
  else
    let (fraction, cs) ← readFraction? cs
    let (power, cs) ← readExponent? cs
    some (ofNumber negative units fraction power, cs)

-- ================================================================ texts

/-- The character of a one-letter escape. -/
def simpleEscape? (c : Char) : Option Char :=
  if c == Text.doubleMark || c == '\\' || c == '/' then some c
  else if c == 'b' then some '\x08'
  else if c == 'f' then some '\x0c'
  else if c == 'n' then some '\n'
  else if c == 'r' then some '\r'
  else if c == 't' then some '\t'
  else none

/-- The characters up to the closing quotation mark, and the rest. The
flag says whether the text denotes something so far. -/
def readChars? (read : List Char) (whole : Bool) :
    List Char → Option ((List Char × Bool) × List Char)
  | '\\' :: 'u' :: a :: b :: c :: d :: '\\' :: 'u' :: e :: f :: g :: h :: rest =>
    let further := '\\' :: 'u' :: e :: f :: g :: h :: rest
    match Text.ofHex? [a, b, c, d], Text.ofHex? [e, f, g, h] with
    | some first, some second =>
      if 0xD800 ≤ first && first < 0xDC00 && 0xDC00 ≤ second && second < 0xE000 then
        let code := 0x10000 + (first - 0xD800) * 0x400 + (second - 0xDC00)
        readChars? (Char.ofNat code :: read) whole rest
      else if 0xD800 ≤ first && first < 0xE000 then readChars? read false further
      else readChars? (Char.ofNat first :: read) whole further
    | _, _ => none
  | '\\' :: 'u' :: a :: b :: c :: d :: rest => do
    let code ← Text.ofHex? [a, b, c, d]
    if 0xD800 ≤ code && code < 0xE000 then readChars? read false rest
    else readChars? (Char.ofNat code :: read) whole rest
  | '\\' :: c :: rest => do
    let c ← simpleEscape? c
    readChars? (c :: read) whole rest
  | c :: rest =>
    if c == Text.doubleMark then some ((read.reverse, whole), rest)
    else if c == '\\' || c.toNat < 0x20 then none
    else readChars? (c :: read) whole rest
  | [] => none
termination_by cs => cs.length

-- =============================================================== values

/-- The text from the first character that is not a blank of JSON. -/
def skipBlanks (cs : List Char) : List Char :=
  cs.dropWhile fun c => c == ' ' || c == '\n' || c == '\t' || c == '\r'

mutual

/-- A value at the front of a text. -/
def readValue? : Nat → List Char → Option (Json × List Char)
  | 0, _ => none
  | fuel + 1, cs =>
    match skipBlanks cs with
    | 'n' :: 'u' :: 'l' :: 'l' :: rest => some (.null, rest)
    | 't' :: 'r' :: 'u' :: 'e' :: rest => some (.flag true, rest)
    | 'f' :: 'a' :: 'l' :: 's' :: 'e' :: rest => some (.flag false, rest)
    | '[' :: rest =>
      match skipBlanks rest with
      | ']' :: rest => some (.list [], rest)
      | rest => (readItems? fuel rest).map fun (items, rest) => (.list items, rest)
    | c :: rest =>
      if c == Text.doubleMark then
        (readChars? [] true rest).map fun ((s, whole), rest) =>
          (if whole then .text (String.ofList s) else unreadable, rest)
      else if c == '\x7b' then
        match skipBlanks rest with
        | '\x7d' :: rest => some (.record [], rest)
        | rest => (readFields? fuel rest).map fun ((fields, whole), rest) =>
          (if whole then .record fields else unreadable, rest)
      else readNumber? (c :: rest)
    | [] => none

/-- The items of a list up to its closing bracket; there is at least one. -/
def readItems? : Nat → List Char → Option (List Json × List Char)
  | 0, _ => none
  | fuel + 1, cs => do
    let (item, cs) ← readValue? fuel cs
    match skipBlanks cs with
    | ',' :: cs => (readItems? fuel cs).map fun (items, rest) => (item :: items, rest)
    | ']' :: rest => some ([item], rest)
    | _ => none

/-- The fields of a record up to its closing bracket; there is at least
one. The flag says whether all names denote something. -/
def readFields? : Nat → List Char → Option ((List (String × Json) × Bool) × List Char)
  | 0, _ => none
  | fuel + 1, cs => do
    match skipBlanks cs with
    | '\x22' :: cs =>
      let ((name, named), cs) ← readChars? [] true cs
      match skipBlanks cs with
      | ':' :: cs =>
        let (value, cs) ← readValue? fuel cs
        let field := (String.ofList name, value)
        match skipBlanks cs with
        | ',' :: cs =>
          (readFields? fuel cs).map fun ((fields, whole), rest) =>
            ((field :: fields, named && whole), rest)
        | '\x7d' :: rest => some (([field], named), rest)
        | _ => none
      | _ => none
    | _ => none

end

/-- A whole text as a value. -/
def read? (s : String) : Option Json :=
  let cs := s.toList
  match readValue? (2 * cs.length + 2) cs with
  | some (v, rest) => if (skipBlanks rest).isEmpty then some v else none
  | none => none

end Clearance.Json
