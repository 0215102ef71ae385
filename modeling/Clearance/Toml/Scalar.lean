/-
The scalars of TOML: texts between quotation marks, whole numbers,
floating-point numbers, dates and times. Every reader takes its scalar
from the front of the characters and returns the rest.
-/
import Clearance.Calendar.Date
import Clearance.Decimal.Numeral
import Clearance.Text.Hex
import Clearance.Toml.Value

namespace Clearance.Toml

open Text (ofHex? hexValue?)

-- =========================================================== characters

/-- A space or a tab. -/
def isSpace (c : Char) : Bool := c == ' ' || c == '\t'

/-- The characters from the first that is no space. -/
def skipSpaces (cs : List Char) : List Char := cs.dropWhile isSpace

/-- The characters of comments and texts. Of the controls only the tab is
one of them. -/
def isPrintable (c : Char) : Bool :=
  c == '\t' || (0x20 ≤ c.toNat && c.toNat != 0x7F)

/-- What follows a line end at the front. -/
def lineEnd? : List Char → Option (List Char)
  | '\n' :: cs => some cs
  | '\r' :: '\n' :: cs => some cs
  | _ => none

/-- The characters from the first that is neither a space nor a line end. -/
def skipLines : List Char → List Char
  | '\r' :: '\n' :: cs => skipLines cs
  | c :: cs => if isSpace c || c == '\n' then skipLines cs else c :: cs
  | [] => []

-- ================================================================ texts

/-- The character of an escape after its backslash. -/
def readEscape? : List Char → Option (Char × List Char)
  | 'b' :: cs => some ('\x08', cs)
  | 't' :: cs => some ('\t', cs)
  | 'n' :: cs => some ('\n', cs)
  | 'f' :: cs => some ('\x0c', cs)
  | 'r' :: cs => some ('\r', cs)
  | '\x22' :: cs => some ('\x22', cs)
  | '\\' :: cs => some ('\\', cs)
  | 'u' :: cs => codePoint? 4 cs
  | 'U' :: cs => codePoint? 8 cs
  | _ => none
where
  /-- The character of a code point with `n` digits. -/
  codePoint? (n : Nat) (cs : List Char) : Option (Char × List Char) := do
    let code ← ofHex? (cs.take n)
    if cs.length < n || (0xD800 ≤ code && code ≤ 0xDFFF) || 0x10FFFF < code then none
    else some (Char.ofNat code, cs.drop n)

/-- A text of one line, after its opening mark. Behind a backslash, which
has no meaning in literal texts, stands an escape. -/
def readLine? (mark : Char) : Nat → List Char → List Char → Option (String × List Char)
  | 0, _, _ => none
  | fuel + 1, read, cs =>
    match cs with
    | [] => none
    | c :: cs =>
      if c == mark then some (String.ofList read.reverse, cs)
      else if c == '\\' && mark == '\x22' then
        (readEscape? cs).bind fun (x, cs) => readLine? mark fuel (x :: read) cs
      else if isPrintable c then readLine? mark fuel (c :: read) cs
      else none

/-- What follows a backslash at the end of a line: the next lines from
their first character that is no space. -/
def continuation? (cs : List Char) : Option (List Char) :=
  (lineEnd? (skipSpaces cs)).map skipLines

/-- A text of several lines, after its three opening marks. At its end one
or two marks belong to the text. -/
def readLines? (mark : Char) : Nat → List Char → List Char → Option (String × List Char)
  | 0, _, _ => none
  | fuel + 1, read, cs =>
    match cs with
    | [] => none
    | c :: rest =>
      if c == mark then
        let marks := (cs.takeWhile (· == mark)).length
        let inside := if marks < 3 then marks else min (marks - 3) 2
        let read := List.replicate inside mark ++ read
        if marks < 3 then readLines? mark fuel read (cs.drop marks)
        else some (String.ofList read.reverse, cs.drop (inside + 3))
      else if c == '\\' && mark == '\x22' then
        match continuation? rest with
        | some cs => readLines? mark fuel read cs
        | none => (readEscape? rest).bind fun (x, cs) => readLines? mark fuel (x :: read) cs
      else match lineEnd? cs with
        | some cs => readLines? mark fuel ('\n' :: read) cs
        | none => if isPrintable c then readLines? mark fuel (c :: read) rest else none

/-- A text of one line with its marks. -/
def readQuoted? : List Char → Option (String × List Char)
  | '\x22' :: cs => readLine? '\x22' (cs.length + 1) [] cs
  | '\x27' :: cs => readLine? '\x27' (cs.length + 1) [] cs
  | _ => none

/-- A text of either length. A line end after three opening marks does not
belong to it. -/
def readText? : List Char → Option (String × List Char)
  | '\x22' :: '\x22' :: '\x22' :: cs => readLines? '\x22' (cs.length + 1) [] ((lineEnd? cs).getD cs)
  | '\x27' :: '\x27' :: '\x27' :: cs => readLines? '\x27' (cs.length + 1) [] ((lineEnd? cs).getD cs)
  | cs => readQuoted? cs

-- ============================================================== numbers

/-- Digits with single underscores between them. -/
def spanDigits? (isDigit : Char → Bool) : List Char → Option (List Char × List Char)
  | [] => none
  | [c] => if isDigit c then some ([c], []) else none
  | c :: d :: rest =>
    if !isDigit c then none
    else if d == '_' then (spanDigits? isDigit rest).map fun (ds, rest) => (c :: ds, rest)
    else if isDigit d then
      (spanDigits? isDigit (d :: rest)).map fun (ds, rest) => (c :: ds, rest)
    else some ([c], d :: rest)

/-- The number that digits denote, if it has 64 bits. -/
def wholeNumber? (base : Nat) (negative : Bool) (ds : List Char) : Option Value :=
  let n := ds.foldl (fun n c => base * n + (hexValue? c).getD 0) 0
  if n < Nat.pow 2 63 || (negative && n == Nat.pow 2 63) then
    some (.integer (if negative then -Int.ofNat n else Int.ofNat n))
  else none

/-- A whole number in another base than ten, after its first two
characters. -/
def readBased? (base : Nat) (cs : List Char) : Option (Value × List Char) := do
  let (ds, rest) ← spanDigits? (fun c => (hexValue? c).any (· < base)) cs
  (wholeNumber? base false ds).map fun v => (v, rest)

/-- The digits before a point: a zero, or digits without a leading zero. -/
def spanUnits? (cs : List Char) : Option (List Char × List Char) :=
  match cs with
  | '0' :: rest => some (['0'], rest)
  | _ => spanDigits? Char.isDigit cs

/-- The power of ten of a floating-point number, if there is one. -/
def readPower? : List Char → Option (Option Int × List Char)
  | [] => some (none, [])
  | c :: cs =>
    if c == 'e' || c == 'E' then
      let (negative, cs) := Decimal.spanSign cs
      (spanDigits? Char.isDigit cs).map fun (ds, rest) =>
        let n := Int.ofNat (Decimal.ofDigits ds)
        (some (if negative then -n else n), rest)
    else some (none, c :: cs)

/-- A number in base ten after its sign. No floating-point number is too
large on the positive side. -/
def readNumber? (negative : Bool) (cs : List Char) : Option (Value × List Char) := do
  let (units, cs) ← spanUnits? cs
  let (fraction, cs) ← match cs with
    | '.' :: cs => (spanDigits? Char.isDigit cs).map fun (ds, rest) => (some ds, rest)
    | cs => some (none, cs)
  let (power, cs) ← readPower? cs
  if fraction.isNone && power.isNone then
    (wholeNumber? 10 negative units).map fun v => (v, cs)
  else
    let places := fraction.getD []
    let x := Decimal.Numeral.toFloat
      ⟨negative, Decimal.ofDigits (units ++ places), power.getD 0 - Int.ofNat places.length⟩
    if x == 1.0 / 0.0 then none else some (.real x, cs)

/-- A number with a sign or without one, or one of the words for infinity
and for what is not a number. -/
def readSigned? (cs : List Char) : Option (Value × List Char) :=
  let (negative, cs) := Decimal.spanSign cs
  match cs with
  | 'i' :: 'n' :: 'f' :: rest => some (.real (if negative then -1.0 / 0.0 else 1.0 / 0.0), rest)
  | 'n' :: 'a' :: 'n' :: rest => some (.real (0.0 / 0.0), rest)
  | _ => readNumber? negative cs

-- ====================================================== dates and times

/-- A number of exactly `n` digits. -/
def readFixed? (n : Nat) (cs : List Char) : Option (Nat × List Char) :=
  let ds := cs.take n
  if ds.length == n && ds.all Char.isDigit then some (Decimal.ofDigits ds, cs.drop n) else none

/-- A number of two digits below a limit, after a given character. -/
def readAfter? (mark : Char) (limit : Nat) : List Char → Option (Nat × List Char)
  | c :: cs =>
    if c == mark then (readFixed? 2 cs).bind fun (n, rest) =>
      if n < limit then some (n, rest) else none
    else none
  | [] => none

/-- What follows a day. -/
def skipDay? (cs : List Char) : Option (List Char) := do
  let (year, cs) ← readFixed? 4 cs
  let (month, cs) ← readAfter? '-' 13 cs
  let (day, cs) ← readAfter? '-' 32 cs
  if isDay (Int.ofNat year) month day then some cs else none

/-- What follows the time of a day; a second may be a leap second. -/
def skipClock? (cs : List Char) : Option (List Char) := do
  let (hour, cs) ← readFixed? 2 cs
  let (_, cs) ← readAfter? ':' 60 cs
  let (_, cs) ← readAfter? ':' 61 cs
  if 24 ≤ hour then none
  else match cs with
    | '.' :: rest =>
      let (ds, rest) := Decimal.spanDigits rest
      if ds.isEmpty then none else some rest
    | cs => some cs

/-- What follows an offset from universal time, if there is one. -/
def skipOffset? : List Char → Option (List Char)
  | 'Z' :: cs | 'z' :: cs => some cs
  | c :: cs =>
    if c == '+' || c == '-' then do
      let (hour, cs) ← readFixed? 2 cs
      let (_, cs) ← readAfter? ':' 60 cs
      if 24 ≤ hour then none else some cs
    else some (c :: cs)
  | [] => some []

/-- What follows a day, with the time of the day if one stands there, or a
time alone. -/
def skipTime? (cs : List Char) : Option (List Char) :=
  match skipDay? cs with
  | none => skipClock? cs
  | some [] => some []
  | some (c :: rest) =>
    if c == 'T' || c == 't' then (skipClock? rest).bind skipOffset?
    else if c == ' ' && (rest.head?).any Char.isDigit then (skipClock? rest).bind skipOffset?
    else some (c :: rest)

/-- Whether a date or a time starts here: digits and then a dash or a
colon. -/
def startsTime (cs : List Char) : Bool :=
  let (ds, rest) := Decimal.spanDigits cs
  match rest with
  | '-' :: _ => ds.length == 4
  | ':' :: _ => ds.length == 2
  | _ => false

end Clearance.Toml
