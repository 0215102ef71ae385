/-
From YAML tokens to nodes: the one document of a stream as a tree of
scalars, sequences and mappings.

A node may carry an anchor, to which aliases refer. An anchor is numbered
by the count of different names before it, and when two anchors get the
same number, aliases of that number mean the later one. An alias may refer
to a node that it is itself part of, so the tree keeps aliases as they
are, and a `Value` has the anchored nodes beside the node.

A stream without any document has no root.
-/
import Clearance.Collection.Table
import Clearance.Yaml.Lexer

namespace Clearance.Yaml

-- ================================================================ nodes

/-- A node. A tag is a string of bytes. Tags of collections do not matter and
are left out. -/
inductive Node where
  | scalar (tag : Option (List UInt8)) (style : Style) (text : String)
  | sequence (items : List Node)
  | mapping (entries : List (Node × Node))
  | alias (anchor : Nat)

/-- The empty plain scalar, which stands where a node was left out. -/
def Node.empty : Node := .scalar none .plain ""

instance : Inhabited Node := ⟨.empty⟩

/-- A node, or nothing, with the anchored nodes of its document. -/
structure Value where
  anchored : List (Nat × Node)
  node : Option Node

/-- The node that an alias means. Aliases never refer to aliases. -/
def Value.resolved (v : Value) : Option Node :=
  match v.node with
  | some (.alias anchor) => v.anchored.reverse.lookup anchor
  | node => node

-- =========================================================== the reader

/-- What the reader knows between two tokens. -/
structure Reading where
  tokens : List Token
  /-- What tag handles stand for. -/
  handles : Table String (List UInt8)
  /-- The numbers of the anchor names so far. -/
  names : Table String Nat
  /-- The anchored nodes, in the order of their starts. -/
  anchored : Array (Nat × Node)

/-- A step of the reader. -/
abbrev Step := StateT Reading Option

namespace Step

/-- Gives up. -/
def fail {α : Type} : Step α := fun _ => none

/-- The next token, which is not taken. -/
def peek : Step (Option Token) := do return (← get).tokens.head?

/-- Takes one token; at the end of the stream nothing happens. -/
def skip : Step Unit := modify fun r => { r with tokens := r.tokens.tail }

/-- Takes the next token if it is `t`. -/
def accept (t : Token) : Step Bool := do
  if (← peek) == some t then
    skip
    return true
  else return false

/-- Whether the next token is one of some, or the stream ends and that is
one of them. -/
def sees (ts : List Token) : Step Bool := do
  match ← peek with
  | some t => return ts.contains t
  | none => return false

-- ============================================================ properties

/-- The tag that a handle and a suffix denote. -/
def tagOf (handle : String) (suffix : List UInt8) : Step (List UInt8) := do
  if handle.isEmpty then return suffix
  else match (← get).handles.get? handle with
    | some start => return start ++ suffix
    | none => fail

/-- The anchor and the tag at the front, in either order. -/
def properties : Step (Option String × Option (List UInt8)) := do
  match ← peek with
  | some (.anchor name) =>
    skip
    match ← peek with
    | some (.tag handle suffix) =>
      skip
      return (some name, some (← tagOf handle suffix))
    | _ => return (some name, none)
  | some (.tag handle suffix) =>
    skip
    match ← peek with
    | some (.anchor name) =>
      skip
      return (some name, some (← tagOf handle suffix))
    | _ => return (none, some (← tagOf handle suffix))
  | _ => return (none, none)

/-- The node of a step, which starts under an anchor if there is a name. -/
def anchoring (name : Option String) (step : Step Node) : Step Node := do
  match name with
  | none => step
  | some name =>
    let r ← get
    let number := r.names.size
    let place := r.anchored.size
    set { r with
      names := r.names.insert name number
      anchored := r.anchored.push (number, .empty) }
    let node ← step
    modify fun r => { r with anchored := r.anchored.setIfInBounds place (number, node) }
    return node

-- ================================================================= nodes

mutual

/-- A node. Block collections and sequences without indentation are
accepted where they may stand. -/
def node (block indentless : Bool) : Nat → Step Node
  | 0 => fail
  | fuel + 1 => do
    match ← peek with
    | some (.alias name) =>
      skip
      match (← get).names.get? name with
      | some number => return .alias number
      | none => fail
    | _ =>
      let (name, tag) ← properties
      match ← peek with
      | some (.scalar style text) =>
        anchoring name do
          skip
          return .scalar tag style text
      | some .blockEntry =>
        if indentless then
          anchoring name do return .sequence (← indentlessItems fuel)
        else leftOut name tag
      | some .flowSequence =>
        anchoring name do
          skip
          return .sequence (← flowItems true fuel)
      | some .flowMapping =>
        anchoring name do
          skip
          return .mapping (← flowEntries true fuel)
      | some .blockSequence =>
        if block then
          anchoring name do
            skip
            return .sequence (← blockItems fuel)
        else leftOut name tag
      | some .blockMapping =>
        if block then
          anchoring name do
            skip
            return .mapping (← blockEntries fuel)
        else leftOut name tag
      | _ => leftOut name tag
where
  /-- An empty node, which needs an anchor or a tag. -/
  leftOut (name : Option String) (tag : Option (List UInt8)) : Step Node :=
    if name.isNone && tag.isNone then fail
    else anchoring name (return .scalar tag .plain "")

/-- A node, or an empty one before the given tokens. -/
def nodeUnless (ends : List Token) (block indentless : Bool) : Nat → Step Node
  | 0 => fail
  | fuel + 1 => do
    if ← sees ends then return .empty else node block indentless fuel

/-- The items of a block sequence. -/
def blockItems : Nat → Step (List Node)
  | 0 => fail
  | fuel + 1 => do
    if ← accept .blockEntry then
      let item ← nodeUnless [.blockEntry, .blockEnd] true false fuel
      return item :: (← blockItems fuel)
    else if ← accept .blockEnd then return []
    else fail

/-- The items of a sequence that is not indented. -/
def indentlessItems : Nat → Step (List Node)
  | 0 => fail
  | fuel + 1 => do
    if ← accept .blockEntry then
      let item ← nodeUnless [.blockEntry, .key, .value, .blockEnd] true false fuel
      return item :: (← indentlessItems fuel)
    else return []

/-- The entries of a block mapping. -/
def blockEntries : Nat → Step (List (Node × Node))
  | 0 => fail
  | fuel + 1 => do
    if ← accept .key then
      let key ← nodeUnless [.key, .value, .blockEnd] true true fuel
      let value ←
        if ← accept .value then nodeUnless [.key, .value, .blockEnd] true true fuel
        else pure .empty
      return (key, value) :: (← blockEntries fuel)
    else if ← accept .blockEnd then return []
    else fail

/-- The items of a flow sequence. An item that starts with a key is a
mapping with one entry; when that key is left out, the token in its place
is passed over. -/
def flowItems (first : Bool) : Nat → Step (List Node)
  | 0 => fail
  | fuel + 1 => do
    if ← accept .flowSequenceEnd then return []
    if !first && !(← accept .flowEntry) then fail
    else if ← accept .key then
      let key ←
        if ← sees [.value, .flowEntry, .flowSequenceEnd] then do
          skip
          pure .empty
        else node false false fuel
      let value ←
        if ← accept .value then
          nodeUnless [.flowEntry, .flowSequenceEnd] false false fuel
        else pure .empty
      return .mapping [(key, value)] :: (← flowItems false fuel)
    else if ← accept .flowSequenceEnd then return []
    else
      let item ← node false false fuel
      return item :: (← flowItems false fuel)

/-- The entries of a flow mapping. -/
def flowEntries (first : Bool) : Nat → Step (List (Node × Node))
  | 0 => fail
  | fuel + 1 => do
    if ← accept .flowMappingEnd then return []
    if !first && !(← accept .flowEntry) then fail
    else if ← accept .key then
      let key ← nodeUnless [.value, .flowEntry, .flowMappingEnd] false false fuel
      let value ←
        if ← accept .value then
          nodeUnless [.flowEntry, .flowMappingEnd] false false fuel
        else pure .empty
      return (key, value) :: (← flowEntries false fuel)
    else if ← accept .flowMappingEnd then return []
    else
      let key ← node false false fuel
      return (key, .empty) :: (← flowEntries false fuel)

end

-- ============================================================= documents

/-- The directives of a document. -/
def directives : Nat → Bool → List String → Step Unit
  | 0, _, _ => fail
  | fuel + 1, versioned, defined => do
    match ← peek with
    | some (.version major minor) =>
      if versioned || major != 1 || (minor != 1 && minor != 2) then fail
      else
        skip
        directives fuel true defined
    | some (.tagHandle handle start) =>
      if defined.contains handle then fail
      else
        skip
        modify fun r => { r with handles := r.handles.insert handle start }
        directives fuel versioned (handle :: defined)
    | _ => return ()

/-- The tokens between documents: any number of document ends. -/
def documentEnds : Nat → Step Unit
  | 0 => return ()
  | fuel + 1 => do
    if ← accept .documentEnd then documentEnds fuel else return ()

/-- The root of the only document of a stream. -/
def root (fuel : Nat) : Step (Option Node) := do
  match ← peek with
  | none => return none
  | some t =>
    let explicit := match t with
      | .version _ _ | .tagHandle _ _ | .documentStart => true
      | _ => false
    let node ←
      if explicit then
        directives fuel false []
        if !(← accept .documentStart) then fail
        else match ← peek with
          | none | some (.version _ _) | some (.tagHandle _ _) | some .documentStart
          | some .documentEnd => pure .empty
          | some _ => node true false fuel
      else node true false fuel
    documentEnds fuel
    if (← peek).isSome then fail else return some node

end Step

-- ============================================================== streams

/-- What tag handles stand for without a directive. -/
def usualHandles : Table String (List UInt8) :=
  .ofList [("!", "!".toUTF8.toList), ("!!", "tag:yaml.org,2002:".toUTF8.toList)]

/-- The document of a stream that has at most one. -/
def read? (s : String) : Option Value := do
  let tokens ← tokens? s
  let (root, r) ← Step.root (4 * tokens.length + 8)
    { tokens, handles := usualHandles, names := ∅, anchored := #[] }
  some { anchored := r.anchored.toList, node := root }

end Clearance.Yaml
