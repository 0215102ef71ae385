/-
TOML values as decoders see them. Every value is of one kind only, and no
value is absent. A list may stand for a record, whose fields it then
gives in turn; items beyond the last field do not count. An alternative
without content is a text, or a table with the name as its only key and
nothing under it.
-/
import Clearance.Readable
import Clearance.Toml.Reader

namespace Clearance.Toml.Value

/-- The value as a text. -/
def text? : Value → Option String
  | .text s => some s
  | _ => none

/-- The value as a truth value. -/
def flag? : Value → Option Bool
  | .flag b => some b
  | _ => none

/-- The value as a number. -/
def number? : Value → Option Float
  | .real x => some x
  | .integer n => some (Float.ofInt n)
  | _ => none

/-- The name of an alternative without content. -/
def choice? : Value → Option String
  | .text s => some s
  | .table [(name, .table [])] => some name
  | .table [(name, .list [])] => some name
  | _ => none

/-- The items of a list. -/
def items? : Value → Option (List Value)
  | .list items => some items
  | _ => none

/-- The fields of a record. -/
def fields? (names : List String) : Value → Option (List (String × Value))
  | .table entries => some entries
  | .list items => some (names.zip items)
  | _ => none

end Clearance.Toml.Value

namespace Clearance

instance : Readable Toml.Value where
  text? := Toml.Value.text?
  flag? := Toml.Value.flag?
  number? := Toml.Value.number?
  choice? := Toml.Value.choice?
  items? := Toml.Value.items?
  fields? := Toml.Value.fields?
  absent? _ := some false

end Clearance
