/-
YAML values as decoders see them. Where a text is expected every scalar
is one, however it is written. A truth value, a number and the absent
value are plain scalars with certain spellings; a literal block counts
too if its tag says so. A stream without a document and an empty plain
scalar are empty lists and records.

An alternative without content is a scalar, or an empty scalar whose tag
is an exclamation mark and the name.
-/
import Clearance.Decimal.Numeral
import Clearance.Readable
import Clearance.Yaml.Node

namespace Clearance.Yaml

/-- The bytes of one of the tags that every stream knows. -/
def knownTag (name : String) : List UInt8 := ("tag:yaml.org,2002:" ++ name).toUTF8.toList

/-- The name of an alternative that a tag gives: the text after an
exclamation mark. A tag that is no text gives none. -/
def namedByTag? : List UInt8 → Option String
  | first :: rest => if first == 0x21 then String.fromUTF8? ⟨rest.toArray⟩ else none
  | [] => none

/-- Whether a scalar may be something else than a text: it is plain, or a
literal block with the tag `name`. -/
def isOpen (name : String) (tag : Option (List UInt8)) (style : Style) : Bool :=
  style == .plain || (style == .literal && tag == some (knownTag name))

/-- Whether a text spells the absent value. -/
def isNullWord (s : String) : Bool := ["null", "Null", "NULL", "~"].contains s

/-- The number that a text spells. -/
def numberWord? (s : String) : Option Float :=
  let body := match s.toList with
    | '+' :: '+' :: _ | '+' :: '-' :: _ => []
    | '+' :: cs => cs
    | cs => cs
  if [".inf", ".Inf", ".INF"].contains (String.ofList body) then some (1.0 / 0.0)
  else if ["-.inf", "-.Inf", "-.INF"].contains s then some (-1.0 / 0.0)
  else if [".nan", ".NaN", ".NAN"].contains s then some (0.0 / 0.0)
  else (Decimal.Numeral.read? body).bind fun n =>
    if n.toFloat.isFinite then some n.toFloat else none

namespace Value

/-- A part of a value. -/
def part (v : Value) (node : Node) : Value := { v with node }

/-- The value as a text. -/
def text? (v : Value) : Option String :=
  match v.resolved with
  | some (.scalar _ _ text) => some text
  | _ => none

/-- The value as a truth value. -/
def flag? (v : Value) : Option Bool :=
  match v.resolved with
  | some (.scalar tag style text) =>
    if !isOpen "bool" tag style then none
    else if ["true", "True", "TRUE"].contains text then some true
    else if ["false", "False", "FALSE"].contains text then some false
    else none
  | _ => none

/-- The value as a number. -/
def number? (v : Value) : Option Float :=
  match v.resolved with
  | some (.scalar tag style text) => if isOpen "float" tag style then numberWord? text else none
  | _ => none

/-- The name of an alternative without content. -/
def choice? (v : Value) : Option String :=
  match v.resolved with
  | some (.scalar tag style text) =>
    match tag.bind namedByTag? with
    | none => some text
    | some name =>
      if style == .plain && (text.isEmpty || isNullWord text) then some name else none
  | _ => none

/-- Whether the value stands for an empty collection of either kind. -/
def isEmptyCollection (v : Value) : Bool :=
  match v.resolved with
  | none => true
  | some (.scalar _ style text) => style == .plain && text.isEmpty
  | _ => false

/-- The items of a list. -/
def items? (v : Value) : Option (List Value) :=
  match v.resolved with
  | some (.sequence items) => some (items.map v.part)
  | _ => if v.isEmptyCollection then some [] else none

/-- The fields of a record; all names must be scalars. -/
def fields? (v : Value) : Option (List (String × Value)) :=
  match v.resolved with
  | some (.mapping entries) =>
    entries.mapM fun (name, value) => ((v.part name).text?).map fun s => (s, v.part value)
  | _ => if v.isEmptyCollection then some [] else none

/-- Whether the value stands for an absent one. -/
def absent? (v : Value) : Option Bool :=
  match v.resolved with
  | none => some true
  | some (.scalar tag .plain text) =>
    match tag with
    | none => some (text.isEmpty || isNullWord text)
    | some tag =>
      if tag != knownTag "null" then some false
      else if isNullWord text then some true
      else none
  | some _ => some false

end Value

instance : Readable Value where
  text? := Value.text?
  flag? := Value.flag?
  number? := Value.number?
  choice? := Value.choice?
  items? := Value.items?
  fields? _ := Value.fields?
  absent? := Value.absent?

end Clearance.Yaml
