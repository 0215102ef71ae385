/-
From characters to YAML tokens. The lexer goes from token to token and
remembers which earlier place may still turn out to be a key: that is
known only when a colon follows, and then a key token is put in at that
place, together with the bracket of a new block mapping where the
indentation asks for one.

A key reaches over one line and 1024 bytes. Where a key must come,
because the line starts at the indentation of a mapping, it is an error
when none does.
-/
import Clearance.Decimal.Numeral
import Clearance.Yaml.Scalar

namespace Clearance.Yaml

/-- A place that may turn out to be a key. -/
structure PossibleKey where
  required : Bool
  position : Nat
  index : Nat
  line : Nat
  column : Nat

/-- The lexer between two tokens. -/
structure Lexer where
  cursor : Cursor
  tokens : Array Token
  /-- The indentation of the innermost block collection, -1 outside. -/
  indent : Int
  /-- The indentations of the collections around it. -/
  outer : List Int
  /-- Whether a key may start here. -/
  keyAllowed : Bool
  /-- The possible key of the innermost collection. -/
  key : Option PossibleKey
  /-- The possible keys of the collections around the flow collections that
  are open, one for each of them. -/
  outerKeys : List (Option PossibleKey)

namespace Lexer

/-- The lexer at the start of a stream. -/
def start (cs : List Char) : Lexer :=
  { cursor := .start cs, tokens := #[], indent := -1, outer := [], keyAllowed := true
    key := none, outerKeys := [] }

/-- Whether a flow collection is open. -/
def inFlow (l : Lexer) : Bool := !l.outerKeys.isEmpty

/-- The lexer with one more token. -/
def push (l : Lexer) (t : Token) : Lexer := { l with tokens := l.tokens.push t }

/-- The lexer after a token of `n` characters. -/
def take (l : Lexer) (n : Nat) (t : Token) : Lexer :=
  { l with cursor := l.cursor.skip n, tokens := l.tokens.push t }

/-- The tokens with one more at a position. -/
def insertAt (tokens : Array Token) (position : Nat) (t : Token) : Array Token :=
  (tokens.toList.take position ++ t :: tokens.toList.drop position).toArray

-- ========================================================= indentation

/-- Closes the block collections that are indented deeper than `column`. -/
def unroll (column : Int) : Nat → Lexer → Lexer
  | 0, l => l
  | fuel + 1, l =>
    if l.indent ≤ column then l
    else match l.outer with
      | [] => l
      | outer :: rest =>
        unroll column fuel { l.push .blockEnd with indent := outer, outer := rest }

/-- Closes the block collections deeper than `column`, unless a flow
collection is open. -/
def dedent (column : Int) (l : Lexer) : Lexer :=
  if l.inFlow then l else unroll column l.outer.length l

/-- Opens a block collection at `column`, if that is deeper than the
innermost one; its bracket goes to `position`. -/
def roll (column position : Nat) (t : Token) (l : Lexer) : Lexer :=
  if l.inFlow || Int.ofNat column ≤ l.indent then l
  else { l with
    tokens := insertAt l.tokens position t, indent := column, outer := l.indent :: l.outer }

-- ======================================================== possible keys

/-- Gives up a possible key. -/
def dropKey? (l : Lexer) : Option Lexer :=
  if l.key.any (·.required) then none else some { l with key := none }

/-- Notes that a key may start here. -/
def saveKey? (l : Lexer) : Option Lexer :=
  if !l.keyAllowed then some l
  else (dropKey? l).map fun l => { l with
    key := some
      { required := !l.inFlow && l.indent == Int.ofNat l.cursor.column
        position := l.tokens.size
        index := l.cursor.index
        line := l.cursor.line
        column := l.cursor.column } }

/-- Gives up one possible key if the cursor is out of its reach. -/
def expire? (c : Cursor) : Option PossibleKey → Option (Option PossibleKey)
  | none => some none
  | some k =>
    if k.line < c.line || k.index + 1024 < c.index then
      if k.required then none else some none
    else some (some k)

/-- Gives up the possible keys that are out of reach. -/
def expireKeys? (l : Lexer) : Option Lexer := do
  let key ← expire? l.cursor l.key
  let outerKeys ← l.outerKeys.mapM (expire? l.cursor)
  some { l with key, outerKeys }

-- ============================================================= skipping

/-- Skips blanks, comments, line ends and byte order marks that start lines.
A tab may not stand where a key could start. -/
def skipToToken : Nat → Lexer → Lexer
  | 0, l => l
  | fuel + 1, l =>
    let c := l.cursor
    let c := if c.column == 0 && c.sees 0 orderMark then c.skip 1 else c
    let c := c.skipWhile fun x => x == ' ' || ((l.inFlow || !l.keyAllowed) && x == '\t')
    let c := if c.sees 0 '#' then c.skipWhile (!isBreak ·) else c
    if c.atBreak then
      skipToToken fuel
        { l with cursor := c.lineBreak.2, keyAllowed := l.keyAllowed || !l.inFlow }
    else { l with cursor := c }

-- ====================================================== names and tags

/-- The characters of tags. -/
def isTagChar (x : Char) : Bool :=
  isNameChar x || ";/?:@&=+$.%!~*'()".toList.contains x

/-- An anchor or alias: its name, which a few characters may follow. -/
def readName? (c : Cursor) : Option (String × Cursor) :=
  let (name, c) := (c.skip 1).span isNameChar
  let ends := c.endsWord 0 || (c.peek 0).any fun x => "?:,]\x7d%@\x60".toList.contains x
  if name.isEmpty || !ends then none else some (String.ofList name, c)

/-- How many bytes the character takes that starts with a byte, to judge by
that byte. -/
def charLength? (byte : Nat) : Option Nat :=
  if byte < 0x80 then some 1
  else if byte < 0xC0 then none
  else if byte < 0xE0 then some 2
  else if byte < 0xF0 then some 3
  else if byte < 0xF8 then some 4
  else none

/-- The bytes that tag characters denote, when `missing` bytes of a
character are still to come. An escape is a percent sign and two digits in
base 16. A character beyond ASCII is escaped byte for byte; what counts is
that its first byte and the number of the others fit, not that there is
such a character. -/
def tagBytes? : Nat → List Char → Option (List UInt8)
  | 0, [] => some []
  | 0, '%' :: a :: b :: rest => do
    let byte ← Text.ofHex? [a, b]
    let length ← charLength? byte
    (tagBytes? (length - 1) rest).map (byte.toUInt8 :: ·)
  | missing + 1, '%' :: a :: b :: rest => do
    let byte ← Text.ofHex? [a, b]
    if byte < 0x80 || 0xC0 ≤ byte then none
    else (tagBytes? missing rest).map (byte.toUInt8 :: ·)
  | 0, x :: rest =>
    if x == '%' then none else (tagBytes? 0 rest).map (String.utf8EncodeChar x ++ ·)
  | _ + 1, _ => none

/-- A part of a tag: the bytes of the longest run of tag characters, which
must not be empty. A zero byte ends the part. -/
def readTagPart? (verbatim : Bool) (c : Cursor) : Option (List UInt8 × Cursor) :=
  let (cs, c) := c.span fun x =>
    isTagChar x || (verbatim && (x == ',' || x == '[' || x == ']'))
  if cs.isEmpty then none
  else (tagBytes? 0 cs).map fun bytes => (bytes.takeWhile (· != 0), c)

/-- A tag handle: an exclamation mark, or a name between two of them. The
flag says whether the second one is there. -/
def readHandle? (c : Cursor) : Option ((List Char × Bool) × Cursor) :=
  if c.sees 0 '!' then
    let (name, c) := (c.skip 1).span isNameChar
    if c.sees 0 '!' then some (('!' :: name ++ ['!'], true), c.skip 1)
    else some (('!' :: name, false), c)
  else none

/-- A tag without the check of what follows it. -/
def readTag? (c : Cursor) : Option (Token × Cursor) := do
  if c.sees 1 '<' then
    let (suffix, c) ← readTagPart? true (c.skip 2)
    if c.sees 0 '>' then some (.tag "" suffix, c.skip 1) else none
  else
    let ((handle, closed), after) ← readHandle? c
    if closed then
      let (suffix, c) ← readTagPart? false after
      some (.tag (String.ofList handle) suffix, c)
    else
      let (suffix, c) ← readTagPart? false c
      some (if suffix.length == 1 then .tag "" suffix else .tag "!" (suffix.drop 1), c)

-- ========================================================== directives

/-- A part of a version number. -/
def readVersionPart? (c : Cursor) : Option (Nat × Cursor) :=
  let (ds, c) := c.span Char.isDigit
  if ds.isEmpty || 9 < ds.length then none else some (Decimal.ofDigits ds, c)

/-- The arguments of a directive. -/
def readArguments? (name : String) (c : Cursor) : Option (Token × Cursor) := do
  let c := c.skipWhile isSpace
  if name == "YAML" then
    let (major, c) ← readVersionPart? c
    if !c.sees 0 '.' then none
    else
      let (minor, c) ← readVersionPart? (c.skip 1)
      some (.version major minor, c)
  else if name == "TAG" then
    let ((handle, closed), c) ← readHandle? c
    if (!closed && handle != ['!']) || !c.atSpace then none
    else
      let (start, c) ← readTagPart? true (c.skipWhile isSpace)
      if c.endsWord 0 then some (.tagHandle (String.ofList handle) start, c) else none
  else none

/-- A directive, to the end of its line. -/
def readDirective? (c : Cursor) : Option (Token × Cursor) := do
  let (name, c) := (c.skip 1).span isNameChar
  if name.isEmpty || !c.endsWord 0 then none
  else
    let (t, c) ← readArguments? (String.ofList name) c
    let c := c.skipWhile isSpace
    let c := if c.sees 0 '#' then c.skipWhile (!isBreak ·) else c
    if c.endsLine then some (t, c.lineBreak.2) else none

-- ============================================================== fetching

/-- A document indicator or directive closes all block collections. -/
def fetchDocument? (l : Lexer) (t : Token) : Option Lexer := do
  let l ← dropKey? (dedent (-1) l)
  some ({ l with keyAllowed := false }.take 3 t)

/-- A directive. -/
def fetchDirective? (l : Lexer) : Option Lexer := do
  let l ← dropKey? (dedent (-1) l)
  let (t, c) ← readDirective? l.cursor
  some { l.push t with keyAllowed := false, cursor := c }

/-- The opening bracket of a flow collection. -/
def fetchFlowStart? (l : Lexer) (t : Token) : Option Lexer := do
  let l ← saveKey? l
  some ({ l with outerKeys := l.key :: l.outerKeys, key := none, keyAllowed := true }.take 1 t)

/-- The closing bracket of a flow collection. -/
def fetchFlowEnd? (l : Lexer) (t : Token) : Option Lexer := do
  let l ← dropKey? l
  let l := match l.outerKeys with
    | [] => l
    | key :: rest => { l with key, outerKeys := rest }
  some ({ l with keyAllowed := false }.take 1 t)

/-- The comma of a flow collection. -/
def fetchFlowEntry? (l : Lexer) : Option Lexer := do
  let l ← dropKey? l
  some ({ l with keyAllowed := true }.take 1 .flowEntry)

/-- The dash of a block sequence. -/
def fetchBlockEntry? (l : Lexer) : Option Lexer := do
  if !l.inFlow && !l.keyAllowed then none
  else
    let l ← dropKey? (roll l.cursor.column l.tokens.size .blockSequence l)
    some ({ l with keyAllowed := true }.take 1 .blockEntry)

/-- The question mark of a key. -/
def fetchKey? (l : Lexer) : Option Lexer := do
  if !l.inFlow && !l.keyAllowed then none
  else
    let l ← dropKey? (roll l.cursor.column l.tokens.size .blockMapping l)
    some ({ l with keyAllowed := !l.inFlow }.take 1 .key)

/-- The colon of a value. -/
def fetchValue? (l : Lexer) : Option Lexer :=
  match l.key with
  | some k =>
    let l := { l with tokens := insertAt l.tokens k.position .key }
    let l := roll k.column k.position .blockMapping l
    some ({ l with key := none, keyAllowed := false }.take 1 .value)
  | none =>
    if !l.inFlow && !l.keyAllowed then none
    else
      let l := roll l.cursor.column l.tokens.size .blockMapping l
      some ({ l with keyAllowed := !l.inFlow }.take 1 .value)

/-- An anchor, alias or tag. -/
def fetchProperty? (l : Lexer) (read? : Cursor → Option (Token × Cursor)) :
    Option Lexer := do
  let l ← saveKey? l
  let (t, c) ← read? l.cursor
  some { l.push t with keyAllowed := false, cursor := c }

/-- A tag and the check of what follows it. -/
def fetchTag? (l : Lexer) : Option Lexer :=
  fetchProperty? l fun c => (readTag? c).bind fun (t, c) =>
    if (l.inFlow && c.sees 0 ',') || c.endsWord 0 then some (t, c) else none

/-- A block scalar. -/
def fetchBlock? (l : Lexer) (style : Style) : Option Lexer := do
  let l ← dropKey? l
  let (text, c) ← readBlock? (style == .folded) l.indent (l.cursor.skip 1)
  some { l.push (.scalar style (String.ofList text)) with keyAllowed := true, cursor := c }

/-- A quoted scalar. -/
def fetchQuoted? (l : Lexer) (mark : Char) : Option Lexer := do
  let l ← saveKey? l
  let (text, c) ← readQuoted? mark (l.cursor.rest.length + 1) [] (l.cursor.skip 1)
  some { l.push (.scalar .quoted (String.ofList text)) with keyAllowed := false, cursor := c }

/-- A plain scalar. A key may start behind it when it ran over a line end. -/
def fetchPlain? (l : Lexer) : Option Lexer := do
  let l ← saveKey? l
  let ((text, broken), c) ←
    readPlain? l.inFlow (l.indent + 1) (l.cursor.rest.length + 1) [] .none l.cursor
  some { l.push (.scalar .plain (String.ofList text)) with keyAllowed := broken, cursor := c }

/-- The characters that cannot start a plain scalar. -/
def isIndicator (x : Char) : Bool :=
  "-?:,[]\x7b\x7d#&*!|>'\x22%@\x60".toList.contains x

/-- Whether a plain scalar starts at the cursor. -/
def startsPlain (l : Lexer) (x : Char) : Bool :=
  !(isSpace x || isBreak x || isIndicator x)
    || (x == '-' && !(l.cursor.peek 1).any isSpace)
    || (!l.inFlow && (x == '?' || x == ':') && !l.cursor.endsWord 1)

/-- The next token, which starts with `x`. -/
def fetch? (l : Lexer) (x : Char) : Option Lexer :=
  let c := l.cursor
  if c.column == 0 && x == '%' then fetchDirective? l
  else if c.atIndicator '-' then fetchDocument? l .documentStart
  else if c.atIndicator '.' then fetchDocument? l .documentEnd
  else if x == '[' then fetchFlowStart? l .flowSequence
  else if x == '\x7b' then fetchFlowStart? l .flowMapping
  else if x == ']' then fetchFlowEnd? l .flowSequenceEnd
  else if x == '\x7d' then fetchFlowEnd? l .flowMappingEnd
  else if x == ',' then fetchFlowEntry? l
  else if x == '-' && c.endsWord 1 then fetchBlockEntry? l
  else if x == '?' && (l.inFlow || c.endsWord 1) then fetchKey? l
  else if x == ':' && (l.inFlow || c.endsWord 1) then fetchValue? l
  else if x == '*' then
    fetchProperty? l fun c => (readName? c).map fun (name, c) => (.alias name, c)
  else if x == '&' then
    fetchProperty? l fun c => (readName? c).map fun (name, c) => (.anchor name, c)
  else if x == '!' then fetchTag? l
  else if x == '|' && !l.inFlow then fetchBlock? l .literal
  else if x == '>' && !l.inFlow then fetchBlock? l .folded
  else if x == '\x27' || x == '\x22' then fetchQuoted? l x
  else if startsPlain l x then fetchPlain? l
  else none

/-- All tokens from here to the end of the stream. -/
def run? : Nat → Lexer → Option (Array Token)
  | 0, _ => none
  | fuel + 1, l => do
    let l := skipToToken (l.cursor.rest.length + 1) l
    let l ← expireKeys? l
    let l := dedent l.cursor.column l
    match l.cursor.peek 0 with
    | some x => run? fuel (← fetch? l x)
    | none => (dropKey? (dedent (-1) l)).map (·.tokens)

end Lexer

/-- The tokens of a stream. -/
def tokens? (s : String) : Option (List Token) :=
  let cs := s.toList
  if cs.all isAllowed then
    (Lexer.run? (cs.length + 2) (.start cs)).map Array.toList
  else none

end Clearance.Yaml
