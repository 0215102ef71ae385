/-
The written forms of licenses and expressions. The kind of an expression
is the field `type`; a license in an expression gives its fields beside
it.
-/
import Clearance.Json.Readable
import Clearance.License.Catalogue
import Clearance.Readable
import Clearance.Shape

namespace Clearance

variable {ν : Type} [Readable ν]

open Readable

-- ============================================================= licenses

/-- The names of the fields of a license. -/
def License.fieldNames : List String := ["id", "common-name", "text"]

/-- The fields of a license; what is not known is left out. -/
def License.toFields (l : License) : List (String × Json) :=
  [("id", .text l.id)] ++ Json.field? "common-name" (l.commonName.map .text)
    ++ Json.field? "text" (l.text.map .text)

/-- The license that some fields describe. -/
def License.ofFields? (fields : List (String × ν)) : Option License := do
  let id ← required? text? fields "id"
  let commonName ← optional? text? fields "common-name"
  let text ← optional? text? fields "text"
  some { id, commonName, text }

/-- The written form of a license. -/
def License.toJson (l : License) : Json := .record l.toFields

/-- The license that a value describes. -/
def License.ofValue? (v : ν) : Option License :=
  (record? false License.fieldNames v).bind License.ofFields?

/-- The written form of an entry of an index. -/
def License.Entry.toJson (e : License.Entry) : Json :=
  .record ([("id", .text e.id)] ++ Json.field? "name" (e.name.map .text)
    ++ Json.field? "aliases" (if e.aliases.isEmpty then none else some (Json.texts e.aliases)))

/-- The parts of an entry of an index. -/
def License.Entry.shape : Shape :=
  .record [("id", .single), ("name", .single), ("aliases", .list .single)]

/-- The entry of an index that a value describes. -/
def License.Entry.ofValue? (v : ν) : Option License.Entry := do
  let fields ← record? false License.Entry.shape.names v
  let id ← required? text? fields "id"
  let name ← optional? text? fields "name"
  let aliases ← withDefault? [] (listOf? text?) fields "aliases"
  some { id, name, aliases }

-- ========================================================== expressions

/-- The written form of an operator. -/
def Operator.toJson (op : Operator) : Json := .text op.keyword

/-- The operator with a keyword. -/
def Operator.ofKeyword? : String → Option Operator
  | "AND" => some .and
  | "OR" => some .or
  | _ => none

/-- The operator that a value describes. -/
def Operator.ofValue? (v : ν) : Option Operator := (choice? v).bind Operator.ofKeyword?

/-- The written form of an expression. -/
def Expression.toJson : Expression → Json
  | .empty => .record [("type", .text "empty")]
  | .leaf l => .record (("type", .text "leaf") :: l.toFields)
  | .statement op left right =>
    .record [("type", .text "statement"), ("operator", op.toJson), ("left", left.toJson),
      ("right", right.toJson)]

/-- The operator of an expression. Beside the other spellings, a record
with the one field `keyword: {}` stands for the operator. -/
def Operator.inExpression? : Json → Option Operator
  | .record [(keyword, .record [])] => Operator.ofKeyword? keyword
  | v => Operator.ofValue? v

/-- The words for the kinds of expressions; a number counts from the first. -/
def Expression.kindNames : List String := ["empty", "leaf", "statement"]

/-- The word for the kind that a value gives. Within a statement the number
of the kind does as well. -/
def Expression.kind? (within : Bool) : Json → Option String
  | .text name => some name
  | .integer (.ofNat n) => if within then Expression.kindNames[n]? else none
  | _ => none

mutual

/-- The expression that a value describes, by itself or within a statement.
A list gives the kind first and then the fields in turn. -/
def Expression.ofPart? (within : Bool) : Json → Option Expression
  | .record fields =>
    match required? (Expression.kind? within) fields "type" with
    | some "empty" => some .empty
    | some "leaf" => (License.ofFields? fields).map .leaf
    | some "statement" => do
      let op ← required? Operator.inExpression? fields "operator"
      let parts := Expression.ofFields fields
      let left ← (parts.lookup "left").join
      let right ← (parts.lookup "right").join
      some (.statement op left right)
    | _ => none
  | .list (kind :: items) =>
    match Expression.kind? within kind with
    | some "empty" => if items.isEmpty then some .empty else none
    | some "leaf" => (License.ofValue? (Json.list items)).map .leaf
    | some "statement" =>
      match items with
      | [op, left, right] => do
        let op ← Operator.inExpression? op
        let left ← Expression.ofPart? true left
        let right ← Expression.ofPart? true right
        some (.statement op left right)
      | _ => none
    | _ => none
  | _ => none

/-- The expressions that the values of the fields of a statement describe. -/
def Expression.ofFields : List (String × Json) → List (String × Option Expression)
  | [] => []
  | (name, v) :: rest => (name, Expression.ofPart? true v) :: Expression.ofFields rest

end

/-- The expression that a value describes. -/
def Expression.ofJson? (v : Json) : Option Expression := Expression.ofPart? false v

end Clearance
