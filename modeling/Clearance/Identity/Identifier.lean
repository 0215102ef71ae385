/-
Identifiers: what an artifact is known by, either the coordinates of a
package or the name and the digest of a file. An identifier can serve as a
pattern for others of its sort.

Identifiers are ordered by keys: coordinates come before files, a missing
field before a present one, and otherwise the fields decide in turn.
-/
import Clearance.Collection.Sorted
import Clearance.Identity.Digest
import Clearance.Identity.PackageUrl

namespace Clearance

/-- The name and the digest of a file, as far as they are known. -/
structure FileEntry where
  filename : Option String
  digest : Option Digest
  deriving DecidableEq, Repr

namespace FileEntry

/-- The entry of a file name; a blank one is as good as none. -/
def named (name : String) : FileEntry :=
  let name := Text.trim name
  ⟨if name.isEmpty then none else some name, none⟩

/-- The entry of a file of which only the digest is known. -/
def ofDigest (d : Digest) : FileEntry := ⟨none, some d⟩

/-- The entry with a digest. -/
def withDigest (e : FileEntry) (d : Digest) : FileEntry := { e with digest := some d }

/-- Whether neither name nor digest is known. -/
def isEmpty (e : FileEntry) : Bool := e.filename.isNone && e.digest.isNone

/-- Whether `needle` matches another entry: its name is a pattern to
`accepts`, and what it does not have does not matter. -/
def matchesBy (accepts : String → String → Bool) (needle other : FileEntry) : Bool :=
  (match needle.filename with
    | none => true
    | some pattern => accepts pattern (other.filename.getD ""))
  && (match needle.digest with
    | none => true
    | some d => other.digest == some d)

/-- Whether `needle`, whose name is a wildcard pattern, matches another
entry. -/
def matchesPattern (needle other : FileEntry) : Bool := needle.matchesBy wildcardMatches other

/-- The text of an entry. -/
def render (e : FileEntry) : String :=
  e.filename.getD "<unnamed>"
    ++ (match e.digest with
      | some d => " (" ++ d.render ++ ")"
      | none => "")

/-- Key of the order of entries: the name, then the digest. -/
def key (e : FileEntry) : List String :=
  (match e.filename with
    | none => ["0"]
    | some name => ["1", name])
  ++ (match e.digest with
    | none => ["0"]
    | some d => "1" :: d.key)

end FileEntry

/-- What an artifact is known by. -/
inductive Identifier where
  | coordinate (coordinate : Coordinate)
  | file (entry : FileEntry)
  deriving DecidableEq, Repr

namespace Identifier

/-- Whether `needle`, whose texts are patterns to `accepts`, matches another
identifier of its sort. -/
def matchesBy (accepts : String → String → Bool) : Identifier → Identifier → Bool
  | .coordinate needle, .coordinate other => needle.matchesBy accepts other
  | .file needle, .file other => needle.matchesBy accepts other
  | _, _ => false

/-- Whether `needle`, whose texts are wildcard patterns, matches another
identifier of its sort. -/
def matchesPattern (needle other : Identifier) : Bool := needle.matchesBy wildcardMatches other

/-- The text of an identifier. -/
def render : Identifier → String
  | .coordinate c => c.purl
  | .file e => e.render

/-- Key of the order of identifiers. -/
def key : Identifier → List String
  | .coordinate c => "0" :: c.key
  | .file e => "1" :: e.key

/-- Whether one identifier comes before another. -/
def before (a b : Identifier) : Bool := a.key < b.key

/-- The identifiers in order, each of them once. -/
def canonical (ids : List Identifier) : List Identifier := sortDistinct before ids

/-- The text of a list of identifiers. -/
def renderAll (ids : List Identifier) : String := "[" ++ ", ".intercalate (ids.map render) ++ "]"

end Identifier

end Clearance
