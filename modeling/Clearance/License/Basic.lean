/-
Licenses and license expressions. An expression is empty, a single
license, or a statement that joins two expressions by AND or OR.

Joining with `combine` leaves out an empty side, so expressions made by it
hold no empty parts. The constructor `statement` keeps whatever it is
given.
-/

namespace Clearance

/-- A license, known by its identifier. -/
structure License where
  id : String
  commonName : Option String
  text : Option String
  deriving DecidableEq, Repr

namespace License

/-- A license of which only the identifier is known. -/
def named (id : String) : License := ⟨id, none, none⟩

/-- The common name, or the identifier where there is none. -/
def displayName (l : License) : String := l.commonName.getD l.id

end License

/-- How a statement joins its two sides. -/
inductive Operator where
  /-- All licenses apply. -/
  | and
  /-- One of the licenses may be chosen. -/
  | or
  deriving DecidableEq, Repr

/-- The word of an operator. -/
def Operator.keyword : Operator → String
  | .and => "AND"
  | .or => "OR"

/-- A license expression. -/
inductive Expression where
  | empty
  | leaf (license : License)
  | statement (operator : Operator) (left right : Expression)
  deriving DecidableEq, Repr

namespace Expression

instance : Inhabited Expression := ⟨.empty⟩

/-- The expression of a license of which only the identifier is known. -/
def ofId (id : String) : Expression := .leaf (.named id)

-- ============================================================== reading

/-- Whether there is no license in the expression. -/
def isEmpty : Expression → Bool
  | .empty => true
  | .leaf _ => false
  | .statement _ left right => left.isEmpty && right.isEmpty

/-- The operator at the top. -/
def operator? : Expression → Option Operator
  | .statement op _ _ => some op
  | _ => none

/-- The licenses from left to right. -/
def licenses : Expression → List License
  | .empty => []
  | .leaf l => [l]
  | .statement _ left right => left.licenses ++ right.licenses

-- ============================================================== writing

/-- A statement from the texts of its sides. A side without a text is left
out. -/
def joinTexts (op : Operator) (left right : String) : String :=
  if left.isEmpty then right
  else if right.isEmpty then left
  else "( " ++ left ++ " " ++ op.keyword ++ " " ++ right ++ " )"

/-- The text of an expression, with each license written by `name`. -/
def render (name : License → String) : Expression → String
  | .empty => ""
  | .leaf l => name l
  | .statement op left right => joinTexts op (left.render name) (right.render name)

/-- The text of an expression with identifiers. -/
def evaluate (e : Expression) : String := e.render License.id

/-- The text of an expression with common names where they are known. -/
def evaluateLong (e : Expression) : String := e.render License.displayName

-- ============================================================== joining

/-- Both expressions joined; if one of them is empty, the other. -/
def combine (op : Operator) (e f : Expression) : Expression :=
  if f.isEmpty then e else if e.isEmpty then f else .statement op e f

/-- Both expressions apply. -/
def and (e f : Expression) : Expression := e.combine .and f

/-- One of the expressions may be chosen. -/
def or (e f : Expression) : Expression := e.combine .or f

-- ========================================================== transforming

/-- Replaces the licenses one after another, from left to right. -/
def mapM {m : Type → Type} [Monad m] (f : License → m License) :
    Expression → m Expression
  | .empty => pure .empty
  | .leaf l => do return .leaf (← f l)
  | .statement op left right => do
    let left ← left.mapM f
    let right ← right.mapM f
    return .statement op left right

/-- Replaces every license. -/
def map (f : License → License) : Expression → Expression
  | .empty => .empty
  | .leaf l => .leaf (f l)
  | .statement op left right => .statement op (left.map f) (right.map f)

-- ============================================================== lemmas

@[simp] theorem licenses_map (f : License → License) (e : Expression) :
    (e.map f).licenses = e.licenses.map f := by
  induction e with
  | empty => rfl
  | leaf l => rfl
  | statement op left right hl hr => simp [map, licenses, hl, hr]

end Expression

end Clearance
