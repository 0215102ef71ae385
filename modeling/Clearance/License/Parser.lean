/-
Reading license expressions. AND binds tighter than OR, both associate to
the left, and parentheses group.

The parser walks over the tokens once. A `Level` holds the left sides that
wait for a right one inside the same parentheses, and the levels of the
parentheses around it are kept in a list. The walk is in one of two
states: an operand has to come, or an operand is complete and an operator
may follow.

WITH, which expressions cannot hold, is told from other errors: it is
reported at its place if everything before it is in order.
-/
import Clearance.License.Basic
import Clearance.License.Error
import Clearance.License.Token

namespace Clearance.License

-- =============================================================== faults

/-- Why a list of tokens is no expression. -/
inductive Fault where
  | withOperator
  | unexpectedEnd
  | unclosed
  | unexpected (token : Token)
  | trailing (rest : List Token)
  deriving DecidableEq, Repr

/-- The error about a text with a fault. -/
def Fault.error (input : String) : Fault → Error
  | .withOperator => .unsupportedOperator "WITH"
  | .unexpectedEnd => .malformed input "unexpected end of expression"
  | .unclosed => .malformed input "missing closing parenthesis"
  | .unexpected token => .malformed input ("unexpected token " ++ token.shown)
  | .trailing rest =>
    .malformed input ("unexpected tokens after expression: " ++ Token.shownList rest)

-- =============================================================== levels

/-- The left sides that wait for their right sides. -/
structure Level where
  /-- What stands before the last OR. -/
  choice : Option Expression
  /-- What stands before the last AND. -/
  joint : Option Expression
  deriving Repr

/-- The level at the start of an expression. -/
def Level.start : Level := ⟨none, none⟩

/-- A right side with the left side that waited for it. -/
def attach (op : Operator) : Option Expression → Expression → Expression
  | none, right => right
  | some left, right => .statement op left right

/-- The level after an operand and AND. -/
def Level.joining (level : Level) (e : Expression) : Level :=
  { level with joint := some (attach .and level.joint e) }

/-- The expression of a level that ends with an operand. -/
def Level.close (level : Level) (e : Expression) : Expression :=
  attach .or level.choice (attach .and level.joint e)

/-- The level after an operand and OR. -/
def Level.choosing (level : Level) (e : Expression) : Level := ⟨some (level.close e), none⟩

-- ============================================================== parsing

mutual

/-- Reads on where an operand has to come. -/
def readOperand (outer : List Level) (level : Level) : List Token → Except Fault Expression
  | [] => .error .unexpectedEnd
  | .word id :: rest => readOperator outer level (.ofId id) rest
  | .opening :: rest => readOperand (level :: outer) .start rest
  | .withWord :: _ => .error .withOperator
  | token :: _ => .error (.unexpected token)

/-- Reads on after the operand `e`. -/
def readOperator (outer : List Level) (level : Level) (e : Expression) :
    List Token → Except Fault Expression
  | [] => if outer.isEmpty then .ok (level.close e) else .error .unclosed
  | .andWord :: rest => readOperand outer (level.joining e) rest
  | .orWord :: rest => readOperand outer (level.choosing e) rest
  | .withWord :: _ => .error .withOperator
  | .closing :: rest =>
    match outer with
    | [] => .error (.trailing (.closing :: rest))
    | around :: outer => readOperator outer around (level.close e) rest
  | token :: rest => .error (if outer.isEmpty then .trailing (token :: rest) else .unclosed)

end

/-- The expression of a list of tokens; without a token it is empty. -/
def ofTokens : List Token → Except Fault Expression
  | [] => .ok .empty
  | tokens => readOperand [] .start tokens

end Clearance.License

namespace Clearance.Expression

open License

/-- The expression that a text denotes. -/
def parse (input : String) : Except License.Error Expression :=
  (ofTokens (tokens input)).mapError (Fault.error input)

/-- The expression that a text denotes; any other text is taken for the
name of a single license. -/
def parseLenient (input : String) : Expression :=
  match parse input with
  | .ok e => e
  | .error _ => .ofId (Text.trim input)

end Clearance.Expression
