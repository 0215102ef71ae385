/-
Coordinates: how package ecosystems name their packages. Every ecosystem
has fields of its own. A coordinate can serve as a pattern for others of
its ecosystem, field by field.
-/
import Clearance.Identity.Wildcard

namespace Clearance

/-- A package ecosystem. -/
inductive Ecosystem where
  | maven
  | npm
  | p2
  | nuget
  | generic
  deriving DecidableEq, Repr

/-- The name of an ecosystem. -/
def Ecosystem.name : Ecosystem → String
  | .maven => "maven"
  | .npm => "npm"
  | .p2 => "p2"
  | .nuget => "nuget"
  | .generic => "generic"

/-- All ecosystems, in order. -/
def Ecosystem.all : List Ecosystem := [.maven, .npm, .p2, .nuget, .generic]

/-- The ecosystem with a name. -/
def Ecosystem.ofName? (name : String) : Option Ecosystem :=
  Ecosystem.all.find? fun e => e.name == name

/-- The place of an ecosystem in the order. -/
def Ecosystem.rank : Ecosystem → Nat
  | .maven => 0
  | .npm => 1
  | .p2 => 2
  | .nuget => 3
  | .generic => 4

/-- The coordinates of a package. -/
inductive Coordinate where
  | maven (groupId artifactId version : String)
  | javaScript (artifactId name version : String)
  | bundle (symbolicName version : String)
  | dotNet (packageId version : String)
  | generic (name version : String)
  deriving DecidableEq, Repr

namespace Coordinate

/-- The ecosystem of a package. -/
def ecosystem : Coordinate → Ecosystem
  | .maven _ _ _ => .maven
  | .javaScript _ _ _ => .npm
  | .bundle _ _ => .p2
  | .dotNet _ _ => .nuget
  | .generic _ _ => .generic

/-- The fields in order. -/
def fields : Coordinate → List String
  | .maven group artifact version => [group, artifact, version]
  | .javaScript artifact name version => [artifact, name, version]
  | .bundle name version => [name, version]
  | .dotNet id version => [id, version]
  | .generic name version => [name, version]

/-- The coordinate with all fields changed. -/
def mapFields (f : String → String) : Coordinate → Coordinate
  | .maven group artifact version => .maven (f group) (f artifact) (f version)
  | .javaScript artifact name version => .javaScript (f artifact) (f name) (f version)
  | .bundle name version => .bundle (f name) (f version)
  | .dotNet id version => .dotNet (f id) (f version)
  | .generic name version => .generic (f name) (f version)

/-- The coordinate without blanks around its fields. -/
def trimmed (c : Coordinate) : Coordinate := c.mapFields Text.trim

/-- The coordinate of an ecosystem with some fields; missing ones are
empty, and further ones do not count. -/
def ofFields (e : Ecosystem) (fields : List String) : Coordinate :=
  let field (n : Nat) := fields.getD n ""
  match e with
  | .maven => .maven (field 0) (field 1) (field 2)
  | .npm => .javaScript (field 0) (field 1) (field 2)
  | .p2 => .bundle (field 0) (field 1)
  | .nuget => .dotNet (field 0) (field 1)
  | .generic => .generic (field 0) (field 1)

/-- Whether all fields are empty. -/
def isEmpty (c : Coordinate) : Bool := c.fields.all String.isEmpty

/-- The name of the package. -/
def name : Coordinate → String
  | .maven _ artifact _ => artifact
  | .javaScript _ name _ => name
  | .bundle name _ => name
  | .dotNet id _ => id
  | .generic name _ => name

/-- The version of the package. -/
def version : Coordinate → String
  | .maven _ _ version => version
  | .javaScript _ _ version => version
  | .bundle _ version => version
  | .dotNet _ version => version
  | .generic _ version => version

/-- Whether `needle`, whose fields are patterns to `accepts`, matches another
coordinate of its ecosystem. -/
def matchesBy (accepts : String → String → Bool) (needle other : Coordinate) : Bool :=
  needle.ecosystem == other.ecosystem
    && (needle.fields.zip other.fields).all fun (p, text) => accepts p text

/-- Whether `needle`, whose fields are wildcard patterns, matches another
coordinate of its ecosystem. -/
def matchesPattern (needle other : Coordinate) : Bool := needle.matchesBy wildcardMatches other

/-- Key of the order of coordinates: the ecosystem, then field by field. -/
def key (c : Coordinate) : List String := toString c.ecosystem.rank :: c.fields

/-- Fields survive reading them back. -/
theorem ofFields_fields (c : Coordinate) : ofFields c.ecosystem c.fields = c := by
  cases c <;> rfl

end Coordinate

end Clearance
