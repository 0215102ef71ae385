/-
The shapes of what decoders read: which parts of a value they look at.
What a value holds beside them is passed over. The names of a record are
part of its shape, so a decoder that takes them from there and a statement
about what it looks at agree on them.
-/

namespace Clearance

/-- The parts of a value that a decoder looks at. -/
inductive Shape where
  /-- The value itself: a text, a truth value, a number or a name. -/
  | single
  /-- A list, with the shape of its items. -/
  | list (item : Shape)
  /-- A record, with the shapes of the fields that it knows. -/
  | record (fields : List (String × Shape))

namespace Shape

/-- The names of the fields of a record. -/
def names : Shape → List String
  | .record fields => fields.map Prod.fst
  | _ => []

/-- A record whose fields are all read as a whole. -/
def plain (names : List String) : Shape := .record (names.map fun name => (name, .single))

end Shape

end Clearance
