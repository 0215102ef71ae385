/-
The three ways to write a YAML scalar: as plain words, between quotation
marks, and as an indented block of lines.

Between two words of a plain or quoted scalar stands a `Gap`: spaces of
one line, or line ends. One line end counts as a space, and of several
the first does not count.
-/
import Clearance.Text.Hex
import Clearance.Yaml.Token

namespace Clearance.Yaml

-- ================================================================= gaps

/-- What stands between two words. -/
structure Gap where
  /-- The spaces, when no line ended. -/
  spaces : List Char
  /-- The first line end. -/
  first : List Char
  /-- The line ends after the first. -/
  further : List Char
  /-- Whether a line ended. -/
  broken : Bool

/-- Nothing between two words. -/
def Gap.none : Gap := ⟨[], [], [], false⟩

/-- What a gap contributes to the text. -/
def Gap.text (g : Gap) : List Char :=
  if !g.broken then g.spaces
  else if g.first != ['\n'] then g.first ++ g.further
  else if g.further.isEmpty then [' ']
  else g.further

/-- The gap at the cursor, added to what was read of it. On a new line a
tab before the column `margin` is refused. -/
def readGap? (margin : Int) : Nat → Gap → Cursor → Option (Gap × Cursor)
  | 0, g, c => some (g, c)
  | fuel + 1, g, c =>
    match c.peek 0 with
    | none => some (g, c)
    | some x =>
      if isSpace x then
        if !g.broken then readGap? margin fuel { g with spaces := g.spaces ++ [x] } (c.skip 1)
        else if x == '\t' && c.column < margin then Option.none
        else readGap? margin fuel g (c.skip 1)
      else if isBreak x then
        let (ending, next) := c.lineBreak
        if g.broken then
          readGap? margin fuel { g with further := g.further ++ ending } next
        else readGap? margin fuel ⟨[], ending, [], true⟩ next
      else some (g, c)

-- ======================================================== plain scalars

/-- The brackets and commas that end a word inside a flow collection. -/
def endsFlowWord (x : Char) : Bool := [',', '[', ']', '\x7b', '\x7d'].contains x

/-- A word of a plain scalar. -/
def readWord? (flow : Bool) : Nat → List Char → Cursor → Option (List Char × Cursor)
  | 0, read, c => some (read.reverse, c)
  | fuel + 1, read, c =>
    match c.peek 0 with
    | none => some (read.reverse, c)
    | some x =>
      if isSpace x || isBreak x then some (read.reverse, c)
      else if flow && x == ':' && (c.peek 1).any (fun y => y == '?' || endsFlowWord y) then
        none
      else if (x == ':' && c.endsWord 1) || (flow && endsFlowWord x) then
        some (read.reverse, c)
      else readWord? flow fuel (x :: read) (c.skip 1)

/-- A plain scalar: words and gaps until an indicator, a comment, a
document indicator or a line that is not indented to `margin`. The flag
says whether a gap with a line end comes last. -/
def readPlain? (flow : Bool) (margin : Int) :
    Nat → List Char → Gap → Cursor → Option ((List Char × Bool) × Cursor)
  | 0, text, gap, c => some ((text, gap.broken), c)
  | fuel + 1, text, gap, c => do
    if c.atDocument || c.sees 0 '#' then return ((text, gap.broken), c)
    let (word, c) ← readWord? flow c.rest.length [] c
    let (text, gap) := if word.isEmpty then (text, gap) else (text ++ gap.text ++ word, .none)
    if !(c.atSpace || c.atBreak) then return ((text, gap.broken), c)
    let (gap, c) ← readGap? margin c.rest.length gap c
    if !flow && c.column < margin then return ((text, gap.broken), c)
    readPlain? flow margin fuel text gap c

-- ======================================================= quoted scalars

/-- The character that an escape of one letter stands for. -/
def namedEscape? (x : Char) : Option Char :=
  match x with
  | '0' => some '\x00'
  | 'a' => some '\x07'
  | 'b' => some '\x08'
  | 't' | '\t' => some '\t'
  | 'n' => some '\n'
  | 'v' => some '\x0b'
  | 'f' => some '\x0c'
  | 'r' => some '\r'
  | 'e' => some '\x1b'
  | ' ' => some ' '
  | '\x22' => some '\x22'
  | '/' => some '/'
  | '\\' => some '\\'
  | 'N' => some (Char.ofNat 0x85)
  | '_' => some (Char.ofNat 0xA0)
  | 'L' => some (Char.ofNat 0x2028)
  | 'P' => some (Char.ofNat 0x2029)
  | _ => none

/-- How many digits follow an escape with a code point. -/
def codeLength? (x : Char) : Option Nat :=
  match x with
  | 'x' => some 2
  | 'u' => some 4
  | 'U' => some 8
  | _ => none

/-- The escape behind a backslash at the cursor. -/
def readEscape? (c : Cursor) : Option (Char × Cursor) := do
  let x ← c.peek 1
  match codeLength? x with
  | some n =>
    let code ← Text.ofHex? (← ((c.skip 2).rest.take n |> fun ds =>
      if ds.length == n then some ds else none))
    if (0xD800 ≤ code && code ≤ 0xDFFF) || 0x10FFFF < code then none
    else some (Char.ofNat code, c.skip (2 + n))
  | none => (namedEscape? x).map fun y => (y, c.skip 2)

/-- The characters of a quoted scalar up to a space, a line end or the
closing mark. The flag says whether an escaped line end comes last. -/
def readQuotedWord? (mark : Char) :
    Nat → List Char → Cursor → Option ((List Char × Bool) × Cursor)
  | 0, read, c => some ((read.reverse, false), c)
  | fuel + 1, read, c =>
    match c.peek 0 with
    | none => some ((read.reverse, false), c)
    | some x =>
      if isSpace x || isBreak x then some ((read.reverse, false), c)
      else if x == mark then
        if mark == '\x27' && c.sees 1 mark then
          readQuotedWord? mark fuel (mark :: read) (c.skip 2)
        else some ((read.reverse, false), c)
      else if mark == '\x22' && x == '\\' then
        if (c.peek 1).any isBreak then some ((read.reverse, true), (c.skip 1).lineBreak.2)
        else (readEscape? c).bind fun (y, next) =>
          readQuotedWord? mark fuel (y :: read) next
      else readQuotedWord? mark fuel (x :: read) (c.skip 1)

/-- A quoted scalar after its opening mark. -/
def readQuoted? (mark : Char) : Nat → List Char → Cursor → Option (List Char × Cursor)
  | 0, _, _ => none
  | fuel + 1, text, c => do
    if c.atDocument || c.rest.isEmpty then none
    else
      let ((word, escaped), c) ← readQuotedWord? mark c.rest.length [] c
      if c.sees 0 mark then some (text ++ word, c.skip 1)
      else
        let (gap, c) ← readGap? 0 c.rest.length { Gap.none with broken := escaped } c
        readQuoted? mark fuel (text ++ word ++ gap.text) c

-- ======================================================== block scalars

/-- What becomes of the line ends at the end of a block scalar. -/
inductive Chomping where
  | strip
  | clip
  | keep

/-- The header of a block scalar after its indicator: chomping and
indentation in either order. -/
def readBlockHeader? (c : Cursor) : Option ((Chomping × Nat) × Cursor) := do
  let chomping (c : Cursor) : Option Chomping :=
    if c.sees 0 '+' then some .keep else if c.sees 0 '-' then some .strip else none
  let digit (c : Cursor) : Option Nat :=
    (c.peek 0).bind fun x => if x.isDigit then some (x.toNat - '0'.toNat) else none
  let ((chomp, width), c) ← match chomping c, digit c with
    | some chomp, _ => match digit (c.skip 1) with
      | some n => some ((chomp, some n), c.skip 2)
      | none => some ((chomp, none), c.skip 1)
    | none, some n => match chomping (c.skip 1) with
      | some chomp => some ((chomp, some n), c.skip 2)
      | none => some ((Chomping.clip, some n), c.skip 1)
    | none, none => some ((Chomping.clip, none), c)
  if width == some 0 then none
  else
    let c := c.skipWhile isSpace
    let c := if c.sees 0 '#' then c.skipWhile (!isBreak ·) else c
    if c.endsLine then some ((chomp, width.getD 0), c.lineBreak.2) else none

/-- The empty lines at the cursor and the indentation after them; `indent`
is zero while it is not known. Gives the deepest indentation seen and the
line ends. -/
def readEmptyLines? (indent : Nat) :
    Nat → Nat → List Char → Cursor → Option ((Nat × List Char) × Cursor)
  | 0, deepest, endings, c => some ((deepest, endings), c)
  | fuel + 1, deepest, endings, c =>
    let spaces := (c.rest.takeWhile (· == ' ')).length
    let c := c.skip (if indent == 0 then spaces else min spaces (indent - c.column))
    let deepest := max deepest c.column
    if (indent == 0 || c.column < indent) && c.sees 0 '\t' then none
    else if c.atBreak then
      let (ending, next) := c.lineBreak
      readEmptyLines? indent fuel deepest (endings ++ ending) next
    else some ((deepest, endings), c)

/-- The lines of a block scalar. `ending` is the end of the last line and
`empty` the ends of empty lines after it; `spaced` says whether the last
line began with a space. -/
def readBlockLines? (folded : Bool) (indent : Nat) :
    Nat → List Char → List Char → List Char → Bool → Cursor →
      Option ((List Char × List Char × List Char) × Cursor)
  | 0, text, ending, empty, _, c => some ((text, ending, empty), c)
  | fuel + 1, text, ending, empty, spaced, c => do
    if c.column != indent || c.rest.isEmpty then return ((text, ending, empty), c)
    let joined :=
      if folded && ending.head? == some '\n' && !spaced && !c.atSpace then
        if empty.isEmpty then [' '] else []
      else ending
    let (line, next) := c.span (!isBreak ·)
    let (lineEnd, next) := next.lineBreak
    let ((_, lines), next) ← readEmptyLines? indent next.rest.length 0 [] next
    readBlockLines? folded indent fuel (text ++ joined ++ empty ++ line) lineEnd lines
      c.atSpace next

/-- A block scalar after its indicator, inside a collection that is
indented by `outer`. -/
def readBlock? (folded : Bool) (outer : Int) (c : Cursor) : Option (List Char × Cursor) := do
  let ((chomp, width), c) ← readBlockHeader? c
  let stated := if width == 0 then 0 else (max outer 0).toNat + width
  let ((deepest, empty), c) ← readEmptyLines? stated (c.rest.length + 1) 0 [] c
  let indent := if stated != 0 then stated else max deepest (max (outer + 1).toNat 1)
  let ((text, ending, empty), c) ←
    readBlockLines? folded indent (c.rest.length + 1) [] [] empty false c
  match chomp with
  | .strip => some (text, c)
  | .clip => some (text ++ ending, c)
  | .keep => some (text ++ ending ++ empty, c)

end Clearance.Yaml
