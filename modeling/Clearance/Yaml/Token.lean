/-
The tokens of a YAML stream, and the cursor that reads its characters.
The cursor counts bytes, lines and columns: the reach of keys is measured
in bytes, and indentation in columns, which are characters.
-/

namespace Clearance.Yaml

-- =============================================================== tokens

/-- How a scalar is written. -/
inductive Style where
  | plain
  | quoted
  | literal
  | folded
  deriving DecidableEq

/-- A token. The brackets of block collections are not written; they come
from the indentation. -/
inductive Token where
  | version (major minor : Nat)
  | tagHandle (handle : String) (start : List UInt8)
  | documentStart
  | documentEnd
  | blockSequence
  | blockMapping
  | blockEnd
  | flowSequence
  | flowSequenceEnd
  | flowMapping
  | flowMappingEnd
  | blockEntry
  | flowEntry
  | key
  | value
  | alias (name : String)
  | anchor (name : String)
  | tag (handle : String) (suffix : List UInt8)
  | scalar (style : Style) (text : String)
  deriving DecidableEq

-- =========================================================== characters

/-- The characters that end a line. -/
def isBreak (c : Char) : Bool :=
  c == '\r' || c == '\n' || c.toNat == 0x85 || c.toNat == 0x2028 || c.toNat == 0x2029

/-- The characters that may stand between tokens of a line. -/
def isSpace (c : Char) : Bool := c == ' ' || c == '\t'

/-- The characters of names: letters, digits, the dash and the underscore. -/
def isNameChar (c : Char) : Bool := c.isAlphanum || c == '-' || c == '_'

/-- The byte order mark. It may start any line, where it is no part of the
text but takes up a column. -/
def orderMark : Char := Char.ofNat 0xFEFF

/-- The characters that a stream may hold. -/
def isAllowed (c : Char) : Bool :=
  let n := c.toNat
  n == 0x9 || n == 0xA || n == 0xD || (0x20 ≤ n && n ≤ 0x7E) || n == 0x85
    || (0xA0 ≤ n && n ≤ 0xD7FF) || (0xE000 ≤ n && n ≤ 0xFFFD)
    || 0x10000 ≤ n

-- =============================================================== cursor

/-- A place in the stream. -/
structure Cursor where
  rest : List Char
  /-- The bytes before it. -/
  index : Nat
  line : Nat
  column : Nat

namespace Cursor

/-- The start of a stream. -/
def start (cs : List Char) : Cursor := ⟨cs, 0, 0, 0⟩

/-- The character `n` places ahead. -/
def peek (c : Cursor) (n : Nat) : Option Char := c.rest[n]?

/-- Whether the character `n` places ahead is `x`. -/
def sees (c : Cursor) (n : Nat) (x : Char) : Bool := c.peek n == some x

/-- Whether a space, a line end or the end of the stream is `n` places
ahead. -/
def endsWord (c : Cursor) (n : Nat) : Bool :=
  match c.peek n with
  | none => true
  | some x => isSpace x || isBreak x

/-- Whether a line end or the end of the stream is at the cursor. -/
def endsLine (c : Cursor) : Bool :=
  match c.peek 0 with
  | none => true
  | some x => isBreak x

/-- Whether a line end is at the cursor. -/
def atBreak (c : Cursor) : Bool := (c.peek 0).any isBreak

/-- Whether a space or a tab is at the cursor. -/
def atSpace (c : Cursor) : Bool := (c.peek 0).any isSpace

/-- The cursor after `n` characters of one line. -/
def skip (c : Cursor) (n : Nat) : Cursor :=
  ⟨c.rest.drop n, (c.rest.take n).foldl (fun i x => i + x.utf8Size) c.index, c.line,
    c.column + n⟩

/-- The longest run of characters that satisfy `p`, and the cursor after
it. -/
def span (c : Cursor) (p : Char → Bool) : List Char × Cursor :=
  let run := c.rest.takeWhile p
  (run, c.skip run.length)

/-- The cursor after the characters that satisfy `p`. -/
def skipWhile (c : Cursor) (p : Char → Bool) : Cursor := (c.span p).2

/-- A line end as it counts in a text, and the cursor at the start of the
next line. Line and paragraph separators count as themselves, all other
line ends as a line feed. -/
def lineBreak (c : Cursor) : List Char × Cursor :=
  match c.rest with
  | '\r' :: '\n' :: rest => (['\n'], ⟨rest, c.index + 2, c.line + 1, 0⟩)
  | x :: rest =>
    if x.toNat == 0x2028 || x.toNat == 0x2029 then ([x], ⟨rest, c.index + 3, c.line + 1, 0⟩)
    else if isBreak x then (['\n'], ⟨rest, c.index + x.utf8Size, c.line + 1, 0⟩)
    else ([], c)
  | [] => ([], c)

/-- Whether a document indicator, three times `x` as a word, starts the
line. -/
def atIndicator (c : Cursor) (x : Char) : Bool :=
  c.column == 0 && c.sees 0 x && c.sees 1 x && c.sees 2 x && c.endsWord 3

/-- Whether one of the two document indicators starts the line. -/
def atDocument (c : Cursor) : Bool := c.atIndicator '-' || c.atIndicator '.'

end Cursor

end Clearance.Yaml
