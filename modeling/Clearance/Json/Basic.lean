/-
JSON values. A record keeps its fields as written, in order and with
repetitions; `sorted` gives it the fields in ascending order of their
names, each name once with the last value written for it.

Whole numbers and floating-point numbers are different values even when
they denote the same number.
-/

namespace Clearance

/-- A JSON value. -/
inductive Json where
  | null
  | flag (value : Bool)
  | integer (value : Int)
  | real (value : Float)
  | text (value : String)
  | list (items : List Json)
  | record (fields : List (String × Json))
  deriving Inhabited

namespace Json

-- ============================================================= equality

mutual

/-- Whether two values are equal. No value that holds a not-a-number
equals anything. -/
def equal : Json → Json → Bool
  | .null, .null => true
  | .flag a, .flag b => a == b
  | .integer a, .integer b => a == b
  | .real a, .real b => a == b
  | .text a, .text b => a == b
  | .list a, .list b => equalItems a b
  | .record a, .record b => equalFields a b
  | _, _ => false

/-- `equal` for the items of two lists. -/
def equalItems : List Json → List Json → Bool
  | [], [] => true
  | a :: as, b :: bs => equal a b && equalItems as bs
  | _, _ => false

/-- `equal` for the fields of two records. -/
def equalFields : List (String × Json) → List (String × Json) → Bool
  | [], [] => true
  | (k, a) :: as, (j, b) :: bs => k == j && equal a b && equalFields as bs
  | _, _ => false

end

instance : BEq Json := ⟨equal⟩

-- ============================================================== sorting

/-- A field at its place among fields with ascending names; it replaces a
field of its own name. -/
def insertField (k : String) (v : Json) : List (String × Json) → List (String × Json)
  | [] => [(k, v)]
  | (j, w) :: rest =>
    if k < j then (k, v) :: (j, w) :: rest
    else if k == j then (k, v) :: rest
    else (j, w) :: insertField k v rest

/-- Fields in ascending order of their names, the last of each name. -/
def sortFields (fields : List (String × Json)) : List (String × Json) :=
  fields.foldl (fun sorted (k, v) => insertField k v sorted) []

mutual

/-- The value with the fields of all its records sorted. -/
def sorted : Json → Json
  | .list items => .list (sortedItems items)
  | .record fields => .record (sortFields (sortedFields fields))
  | v => v

/-- `sorted` for the items of a list. -/
def sortedItems : List Json → List Json
  | [] => []
  | v :: rest => sorted v :: sortedItems rest

/-- `sorted` for the values of fields. -/
def sortedFields : List (String × Json) → List (String × Json)
  | [] => []
  | (k, v) :: rest => (k, sorted v) :: sortedFields rest

end

-- ========================================================= constructors

/-- A floating-point number; what is not finite has no JSON number and
becomes null. -/
def ofFloat (x : Float) : Json := if x.isFinite then .real x else .null

/-- A text, or null when there is none. -/
def ofText? : Option String → Json
  | some s => .text s
  | none => .null

/-- Texts as a list. -/
def texts (ss : List String) : Json := .list (ss.map .text)

/-- A record field that is left out when it has no value. -/
def field? (name : String) : Option Json → List (String × Json)
  | some v => [(name, v)]
  | none => []

end Json

end Clearance
