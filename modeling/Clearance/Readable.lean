/-
Values of a notation as a decoder sees them. What a value is taken for
depends on what the decoder expects, so the class has one question for
each expectation, and a notation answers each of them by its own rules: a
word without quotation marks may be a text where a text is expected and a
truth value where one is.

Records are read in two steps. `record?` finds the fields and checks
their names; `required?`, `optional?` and `withDefault?` look at one field
each.
-/

namespace Clearance

/-- What a decoder can ask about a value of the notation `ν`. -/
class Readable (ν : Type) where
  /-- The value as a text. -/
  text? : ν → Option String
  /-- The value as a truth value. -/
  flag? : ν → Option Bool
  /-- The value as a number. -/
  number? : ν → Option Float
  /-- The name of an alternative that has no content. -/
  choice? : ν → Option String
  /-- The items of a list. -/
  items? : ν → Option (List ν)
  /-- The fields of a record, as written. Some notations also take a list
  for a record; its items belong to the given names in turn. -/
  fields? : List String → ν → Option (List (String × ν))
  /-- Whether the value stands for the absence of an optional one; nothing,
  if the value is neither a present nor an absent one. -/
  absent? : ν → Option Bool

namespace Readable

variable {ν : Type} [Readable ν] {α : Type}

/-- Whether a known name occurs twice among the names of fields. -/
def repeats (known : List String) : List String → Bool
  | [] => false
  | name :: rest => (known.contains name && rest.contains name) || repeats known rest

/-- The fields of a record with the known names. A known name must not
occur twice; in a closed record there are no other names. -/
def record? (closed : Bool) (known : List String) (v : ν) :
    Option (List (String × ν)) := do
  let fields ← fields? known v
  let names := fields.map Prod.fst
  if repeats known names || (closed && !names.all known.contains) then none
  else some fields

/-- A field that must be there. -/
def required? (read : ν → Option α) (fields : List (String × ν)) (name : String) :
    Option α :=
  (fields.lookup name).bind read

/-- A field that may be left out or be absent. -/
def optional? (read : ν → Option α) (fields : List (String × ν)) (name : String) :
    Option (Option α) :=
  match fields.lookup name with
  | none => some none
  | some v => do if ← absent? v then some none else (read v).map some

/-- A field that may be left out and then has a default. -/
def withDefault? (default : α) (read : ν → Option α) (fields : List (String × ν))
    (name : String) : Option α :=
  match fields.lookup name with
  | none => some default
  | some v => read v

/-- A list whose items are all readable. -/
def listOf? (read : ν → Option α) (v : ν) : Option (List α) :=
  (items? v).bind (·.mapM read)

end Readable

end Clearance
