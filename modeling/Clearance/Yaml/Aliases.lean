/-
How often aliases are followed while a document is read. An alias stands
for a node with everything in it, aliases included, so a short text can
denote an enormous document. Therefore a document is refused if reading it
would follow aliases more than a hundred times for each of its events: a
scalar or an alias is one event, a collection has two, its start and its
end.

The count is that of a decoder that looks at the parts of a shape, each of
them once. It does not matter that an alias may refer to a node around it:
the walk goes down the shape, which ends.
-/
import Clearance.Shape
import Clearance.Yaml.Readable

namespace Clearance.Yaml

-- =============================================================== events

mutual

/-- The number of events in a node. -/
def Node.events : Node → Nat
  | .scalar _ _ _ => 1
  | .alias _ => 1
  | .sequence items => 2 + Node.eventsOfItems items
  | .mapping entries => 2 + Node.eventsOfEntries entries

/-- The number of events in the items of a sequence. -/
def Node.eventsOfItems : List Node → Nat
  | [] => 0
  | item :: rest => item.events + Node.eventsOfItems rest

/-- The number of events in the entries of a mapping. -/
def Node.eventsOfEntries : List (Node × Node) → Nat
  | [] => 0
  | (key, value) :: rest => key.events + value.events + Node.eventsOfEntries rest

end

-- ============================================================== follows

namespace Value

/-- How often an alias is followed to get to the value. -/
def steps (v : Value) : Nat :=
  match v.node with
  | some (.alias _) => 1
  | _ => 0

/-- The values in a list. -/
def listed (v : Value) : List Value :=
  match v.resolved with
  | some (.sequence items) => items.map v.part
  | _ => []

/-- The names and the values in a record, as they are written. -/
def entries (v : Value) : List (Value × Value) :=
  match v.resolved with
  | some (.mapping entries) => entries.map fun (name, value) => (v.part name, v.part value)
  | _ => []

mutual

/-- How often aliases are followed to read the parts of a shape. The names
in a record are all read, but only the values that the shape knows. -/
def follows : Shape → Value → Nat
  | .single, v => v.steps
  | .list item, v => v.listed.foldl (fun n x => n + follows item x) v.steps
  | .record fields, v =>
    v.entries.foldl (fun n (name, value) =>
      n + name.steps + followsField fields (name.text?.getD "") value) v.steps

/-- How often aliases are followed to read the value of the field with a
name. -/
def followsField : List (String × Shape) → String → Value → Nat
  | [], _, _ => 0
  | (known, shape) :: rest, name, v =>
    if known == name then follows shape v else followsField rest name v

end

/-- Whether the parts of a shape can be read without following aliases more
than a hundred times for each event. A stream without a document counts as
one event. -/
def isReadable (v : Value) (s : Shape) : Bool :=
  follows s v ≤ 100 * (v.node.map Node.events).getD 1

end Value

/-- The document of a stream for a decoder that looks at the parts of a
shape. -/
def readFor? (shape : Shape) (s : String) : Option Value :=
  (read? s).filter (·.isReadable shape)

end Clearance.Yaml
