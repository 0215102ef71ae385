/-
Written paths. Two paths are equal when they have the same components:
repeated slashes, slashes at the end and single points do not count, a
point at the very start and a slash there do. A path leads on from a
folder, unless it starts with a slash: then the folder is dropped.
-/
import Clearance.Text.Parts

namespace Clearance.Storage

/-- A path as it is written. -/
structure Path where
  text : String
  deriving Repr

namespace Path

/-- The names between the slashes of a path that count. -/
def names (parts : List String) : List String :=
  parts.filter fun name => !name.isEmpty && name != "."

/-- The components of a path; the root is a component of its own. -/
def components (p : Path) : List String :=
  match (Text.splitAll (· == '/') p.text.toList).map String.ofList with
  | "" :: rest => (if p.text.isEmpty then [] else ["/"]) ++ names rest
  | "." :: rest => "." :: names rest
  | parts => names parts

instance : BEq Path := ⟨fun p q => p.components == q.components⟩

/-- Whether a path does not depend on where one starts. -/
def isAbsolute (p : Path) : Bool := p.text.toList.head? == some '/'

/-- What stands between a folder and what is in it. -/
def gap (folder : Path) : String :=
  match folder.text.toList.getLast? with
  | none | some '/' => ""
  | some _ => "/"

/-- The path of what is in a folder. -/
def below (folder : Path) (path : String) : Path := ⟨folder.text ++ folder.gap ++ path⟩

/-- The path that leads on from a folder, or drops it. -/
def join (folder : Path) (path : String) : Path :=
  if isAbsolute ⟨path⟩ then ⟨path⟩ else folder.below path

end Path

end Clearance.Storage
