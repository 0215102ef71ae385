/-
JSON values as decoders see them. A list may stand for a record, when it
has no more items than the record has fields, and a record with the one
field `name: null` for the alternative `name`.
-/
import Clearance.Json.Basic
import Clearance.Readable

namespace Clearance.Json

/-- The value as a text. -/
def text? : Json → Option String
  | .text s => some s
  | _ => none

/-- The value as a truth value. -/
def flag? : Json → Option Bool
  | .flag b => some b
  | _ => none

/-- The value as a number; whole numbers become the nearest
floating-point number. -/
def number? : Json → Option Float
  | .integer n => some (Float.ofInt n)
  | .real x => if x.isFinite then some x else none
  | _ => none

/-- The name of an alternative without content. -/
def choice? : Json → Option String
  | .text s => some s
  | .record [(name, .null)] => some name
  | _ => none

/-- The items of a list. -/
def items? : Json → Option (List Json)
  | .list items => some items
  | _ => none

/-- The fields of a record. -/
def fields? (names : List String) : Json → Option (List (String × Json))
  | .record fields => some fields
  | .list items => if items.length ≤ names.length then some (names.zip items) else none
  | _ => none

/-- Whether the value is null. -/
def isNull : Json → Bool
  | .null => true
  | _ => false

/-- An alternative with content: its name and the content. -/
def variant? : Json → Option (String × Json)
  | .record [(name, v)] => some (name, v)
  | _ => none

/-- A record that names its kind in the field `type`, or a list that starts
with it: the kind, and the value with the other fields. -/
def tagged? : Json → Option (String × Json)
  | .record fields => ((fields.lookup "type").bind text?).map fun kind =>
    (kind, .record (fields.filter fun field => field.1 != "type"))
  | .list (.text kind :: items) => some (kind, .list items)
  | _ => none

instance : Readable Json where
  text? := text?
  flag? := flag?
  number? := number?
  choice? := choice?
  items? := items?
  fields? := fields?
  absent? v := some v.isNull

end Clearance.Json
