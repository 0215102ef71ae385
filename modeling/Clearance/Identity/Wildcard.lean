/-
Wildcard patterns: a star stands for any run of characters without a line
feed, every other character for itself. Blanks around a pattern do not
count, and a pattern of blanks matches everything.

# Expressions

A pattern with a star is matched as a regular expression: the parts between
its stars are escaped, joined by lazy runs and anchored at both ends. What
becomes of the expression is up to an engine (`Engine`). It may refuse an
expression, one that is too large for it say, and then nothing is matched.

The engine that is run here (`Engine.small`) knows no more of expressions
than patterns need, and refuses none that a pattern comes to. It finds an
expression from its end: for every part of it there is a row that says which
ends of the text match, and a row follows from the one for the shorter part.
So the time is at most the product of the two lengths.
-/
import Clearance.Text.Blank

namespace Clearance.Wildcard

-- ================================================================= rows

/-- What a place of an expression asks for: a character, or any run of
characters without a line feed. -/
inductive Piece where
  | letter (c : Char)
  | run
  deriving DecidableEq, Repr

/-- The row of no pieces: they match the empty end of a text only. -/
def emptyRow (text : List Char) : List Bool := text.map (fun _ => false) ++ [true]

/-- The row of pieces that start with the character `p`, from the row of
what follows it. -/
def literalRow (p : Char) : List Char → List Bool → List Bool
  | c :: cs, _ :: next => (p == c && next.headD false) :: literalRow p cs next
  | _, _ => [false]

/-- The row of pieces that start with a run, from the row of what follows
it. -/
def starRow : List Char → List Bool → List Bool
  | c :: cs, here :: next =>
    let row := starRow cs next
    (here || (c != '\n' && row.headD false)) :: row
  | _, row => row

/-- Which ends of a text some pieces match, the longest end first. -/
def row (text : List Char) : List Piece → List Bool
  | [] => emptyRow text
  | .letter p :: ps => literalRow p text (row text ps)
  | .run :: ps => starRow text (row text ps)

/-- Whether some pieces match a whole text. -/
def glob (ps : List Piece) (text : List Char) : Bool := (row text ps).headD false

-- ============================================================== engines

/-- An engine for regular expressions. It may refuse an expression. -/
structure Engine where
  /-- The expression for a text. -/
  escape : List Char → List Char
  /-- Whether an expression is found in a text. -/
  compile : List Char → Option (List Char → Bool)

namespace Engine

/-- The expression of a pattern. -/
def regex (engine : Engine) (pattern : List Char) : List Char :=
  '^' :: (".*?".toList.intercalate ((pattern.splitOn '*').map engine.escape) ++ ['$'])

/-- Whether the engine finds that a pattern matches a text. -/
def accepts (engine : Engine) (needle text : String) : Bool :=
  let pattern := Text.trimChars needle.toList
  if pattern.isEmpty then true
  else if !pattern.contains '*' then pattern == text.toList
  else match engine.compile (engine.regex pattern) with
    | some finds => finds text.toList
    | none => false

end Engine

-- =================================================== an engine for patterns

/-- The characters that have a meaning of their own in expressions. -/
def specials : List Char := "\\.+*?()|[]\x7b\x7d^$".toList

/-- The characters that a backslash may stand before to take their meaning
away, if they have one. -/
def escapables : List Char := specials ++ "#&-~".toList

/-- The pieces that an expression without anchors asks for, if it is made of
such. -/
def read? : List Char → Option (List Piece)
  | [] => some []
  | '.' :: '*' :: '?' :: cs => (read? cs).map (.run :: ·)
  | '\\' :: c :: cs => if c ∈ escapables then (read? cs).map (.letter c :: ·) else none
  | c :: cs => if c ∈ specials then none else (read? cs).map (.letter c :: ·)

/-- An engine that knows no more of expressions than patterns need. -/
def Engine.small : Engine where
  escape text := text.flatMap fun c => if c ∈ escapables then ['\\', c] else [c]
  compile
    | '^' :: cs => if cs.getLast? = some '$' then (read? cs.dropLast).map glob else none
    | _ => none

end Clearance.Wildcard

namespace Clearance

/-- Whether the wildcard pattern `needle` matches a text, to the engine that is
run here. -/
def wildcardMatches (needle text : String) : Bool := Wildcard.Engine.small.accepts needle text

end Clearance
