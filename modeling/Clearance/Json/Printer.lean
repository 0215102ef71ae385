/-
JSON texts. `compact` writes a value without any blanks; `pretty` puts
every item and field on a line of its own, indented by two spaces a level.

Texts escape quotation marks, backslashes and control characters and
nothing else. Floating-point numbers have the fewest digits that read
back, always with a point or an exponent, and an exponent below 10^-5 and
from 10^16 on.
-/
import Clearance.Decimal.Shortest
import Clearance.Json.Basic
import Clearance.Text.Quoted

namespace Clearance.Json

/-- How JSON writes floating-point numbers. -/
def numberStyle : Decimal.Style := ⟨.toEven, ".0", some (-4, 16)⟩

/-- One character inside a JSON text. -/
def escape (c : Char) : List Char :=
  if c == Text.doubleMark || c == '\\' then ['\\', c]
  else if c == '\n' then ['\\', 'n']
  else if c == '\t' then ['\\', 't']
  else if c == '\r' then ['\\', 'r']
  else if c == '\x08' then ['\\', 'b']
  else if c == '\x0c' then ['\\', 'f']
  else if c.toNat < 0x20 then
    let ds := Text.hexDigits c.toNat
    ['\\', 'u'] ++ List.replicate (4 - ds.length) '0' ++ ds
  else [c]

/-- A text between quotation marks. -/
def quote (s : String) : String :=
  String.ofList (Text.doubleMark :: s.toList.flatMap escape ++ [Text.doubleMark])

/-- A floating-point number as a JSON number. -/
def writeReal (x : Float) : String := if x.isFinite then numberStyle.write x else "null"

mutual

/-- A value without blanks. -/
def compact : Json → String
  | .null => "null"
  | .flag b => if b then "true" else "false"
  | .integer n => toString n
  | .real x => writeReal x
  | .text s => quote s
  | .list items => "[" ++ ",".intercalate (compactItems items) ++ "]"
  | .record fields => "\x7b" ++ ",".intercalate (compactFields fields) ++ "\x7d"

/-- The items of a list without blanks. -/
def compactItems : List Json → List String
  | [] => []
  | v :: rest => compact v :: compactItems rest

/-- The fields of a record without blanks. -/
def compactFields : List (String × Json) → List String
  | [] => []
  | (k, v) :: rest => (quote k ++ ":" ++ compact v) :: compactFields rest

end

/-- The start of a line at a level of nesting. -/
def newLine (level : Nat) : String :=
  String.ofList ('\n' :: List.replicate (2 * level) ' ')

/-- Lines between two brackets; without lines the brackets touch. -/
def block (level : Nat) (opening closing : String) (lines : List String) : String :=
  if lines.isEmpty then opening ++ closing
  else opening ++ ",".intercalate (lines.map (newLine (level + 1) ++ ·))
    ++ newLine level ++ closing

mutual

/-- A value on lines of its own, at a level of nesting. -/
def prettyAt (level : Nat) : Json → String
  | .list items => block level "[" "]" (prettyItems (level + 1) items)
  | .record fields => block level "\x7b" "\x7d" (prettyFields (level + 1) fields)
  | .null => "null"
  | .flag b => compact (.flag b)
  | .integer n => compact (.integer n)
  | .real x => compact (.real x)
  | .text s => compact (.text s)

/-- The items of a list, each for a line of its own. -/
def prettyItems (level : Nat) : List Json → List String
  | [] => []
  | v :: rest => prettyAt level v :: prettyItems level rest

/-- The fields of a record, each for a line of its own. -/
def prettyFields (level : Nat) : List (String × Json) → List String
  | [] => []
  | (k, v) :: rest => (quote k ++ ": " ++ prettyAt level v) :: prettyFields level rest

end

/-- A value with its items and fields on lines of their own. -/
def pretty (v : Json) : String := prettyAt 0 v

end Clearance.Json
