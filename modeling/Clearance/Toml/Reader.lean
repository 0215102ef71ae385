/-
Reading TOML texts: a sequence of lines, each with a header, with a key
and its value, or with nothing but a comment. Values in brackets may run
over several lines, values in braces may not.

Brackets and braces go less than `depthLimit` deep, and a key has less than
that many parts.
-/
import Clearance.Text.Parts
import Clearance.Toml.Scalar

namespace Clearance.Toml

-- ============================================================= comments

/-- What follows a comment, if there is one. -/
def skipComment? : List Char → Option (List Char)
  | '#' :: cs =>
    let rest := cs.dropWhile isPrintable
    if rest.isEmpty || (lineEnd? rest).isSome then some rest else none
  | cs => some cs

/-- What follows the rest of a line: spaces, a comment and the line end. -/
def finishLine? (cs : List Char) : Option (List Char) := do
  let cs ← skipComment? (skipSpaces cs)
  if cs.isEmpty then some [] else lineEnd? cs

/-- What follows spaces, line ends and comments. -/
def skipVoid? : Nat → List Char → Option (List Char)
  | 0, _ => none
  | fuel + 1, cs =>
    match skipLines cs with
    | '#' :: rest => do skipVoid? fuel (← skipComment? ('#' :: rest))
    | rest => some rest

-- ================================================================= keys

/-- The characters of keys without quotation marks. -/
def isBare (c : Char) : Bool := c.isAlphanum || c == '_' || c == '-'

/-- One part of a key. -/
def readPart? (cs : List Char) : Option (String × List Char) :=
  match cs with
  | '\x22' :: _ | '\x27' :: _ => readQuoted? cs
  | _ =>
    let (word, rest) := (cs.takeWhile isBare, cs.dropWhile isBare)
    if word.isEmpty then none else some (String.ofList word, rest)

/-- The depth that values do not reach. -/
def depthLimit : Nat := 80

/-- A key with at most the given number of parts, as its path and its last
part; spaces may stand around the parts. -/
def readParts? : Nat → List Char → Option ((List String × String) × List Char)
  | 0, _ => none
  | room + 1, cs => do
    let (name, cs) ← readPart? (skipSpaces cs)
    match skipSpaces cs with
    | '.' :: cs =>
      let ((path, last), cs) ← readParts? room cs
      some ((name :: path, last), cs)
    | cs => some (([], name), cs)

/-- A key as its path and its last part. -/
def readKey? (cs : List Char) : Option ((List String × String) × List Char) :=
  readParts? (depthLimit - 1) cs

-- =============================================================== values

mutual

/-- A value in which brackets and braces go at most `room` deep. -/
def readValue? : Nat → Nat → List Char → Option (Value × List Char)
  | 0, _, _ => none
  | fuel + 1, room, cs =>
    match cs with
    | '\x22' :: _ | '\x27' :: _ => (readText? cs).map fun (s, rest) => (.text s, rest)
    | '[' :: cs =>
      if room == 0 then none
      else (readItems? fuel (room - 1) cs).map fun (items, rest) => (.list items, rest)
    | '\x7b' :: cs =>
      if room == 0 then none
      else match skipSpaces cs with
      | '\x7d' :: rest => some (.table [], rest)
      | cs => (readEntries? fuel (room - 1) [] cs).map fun (entries, rest) =>
        (.table (closeEntries entries), rest)
    | 't' :: 'r' :: 'u' :: 'e' :: rest => some (.flag true, rest)
    | 'f' :: 'a' :: 'l' :: 's' :: 'e' :: rest => some (.flag false, rest)
    | '0' :: 'x' :: rest => readBased? 16 rest
    | '0' :: 'o' :: rest => readBased? 8 rest
    | '0' :: 'b' :: rest => readBased? 2 rest
    | _ =>
      if startsTime cs then (skipTime? cs).map fun rest => (.time, rest) else readSigned? cs

/-- The items of a list up to its closing bracket. A comma may stand
before it. -/
def readItems? : Nat → Nat → List Char → Option (List Value × List Char)
  | 0, _, _ => none
  | fuel + 1, room, cs => do
    match ← skipVoid? (cs.length + 1) cs with
    | ']' :: rest => some ([], rest)
    | cs =>
      let (item, cs) ← readValue? fuel room cs
      match ← skipVoid? (cs.length + 1) cs with
      | ',' :: cs => (readItems? fuel room cs).map fun (items, rest) => (item :: items, rest)
      | ']' :: rest => some ([item], rest)
      | _ => none

/-- The entries of a table in braces up to the closing one; there is at
least one. -/
def readEntries? : Nat → Nat → Entries → List Char → Option (Entries × List Char)
  | 0, _, _, _ => none
  | fuel + 1, room, entries, cs => do
    let ((path, name), cs) ← readKey? cs
    match cs with
    | '=' :: cs =>
      let (value, cs) ← readValue? fuel room (skipSpaces cs)
      let entries ← Entries.add? path name value .header entries
      match skipSpaces cs with
      | ',' :: cs => readEntries? fuel room entries cs
      | '\x7d' :: rest => some (entries, rest)
      | _ => none
    | _ => none

end

-- ================================================================ lines

/-- A text being read: the root table and the path of the last header. -/
structure Progress where
  root : Entries
  current : List String

/-- The line of a header, after its opening brackets. -/
def readHeader? (closing : List Char)
    (openUp? : List String → String → Entries → Option Entries)
    (p : Progress) (cs : List Char) : Option (Progress × List Char) := do
  let ((path, name), cs) ← readKey? cs
  let rest ← finishLine? (← Text.dropStart? closing cs)
  some (⟨← openUp? path name p.root, path ++ [name]⟩, rest)

/-- The line of a key and its value. -/
def readAssignment? (p : Progress) (cs : List Char) : Option (Progress × List Char) := do
  let ((path, name), cs) ← readKey? cs
  match cs with
  | '=' :: cs =>
    let (value, cs) ← readValue? (cs.length + 1) (depthLimit - 1) (skipSpaces cs)
    let rest ← finishLine? cs
    let root ← Entries.alter? false (Entries.add? path name value) p.current .header p.root
    some ({ p with root }, rest)
  | _ => none

/-- All lines. -/
def readLinesOf? : Nat → Progress → List Char → Option Entries
  | 0, _, _ => none
  | fuel + 1, p, cs =>
    match skipLines cs with
    | [] => some p.root
    | '#' :: rest => do readLinesOf? fuel p (← skipComment? ('#' :: rest))
    | '[' :: '[' :: rest => do
      let (p, rest) ← readHeader? [']', ']'] Entries.openNext? p rest
      readLinesOf? fuel p rest
    | '[' :: rest => do
      let (p, rest) ← readHeader? [']'] Entries.openTable? p rest
      readLinesOf? fuel p rest
    | cs => do
      let (p, rest) ← readAssignment? p cs
      readLinesOf? fuel p rest

/-- A whole text as a table; a byte order mark may come first. -/
def read? (s : String) : Option Value :=
  let cs := match s.toList with
    | c :: cs => if c.toNat == 0xFEFF then cs else c :: cs
    | [] => []
  (readLinesOf? (cs.length + 1) ⟨[], []⟩ cs).map fun root => .table (closeEntries root)

end Clearance.Toml
