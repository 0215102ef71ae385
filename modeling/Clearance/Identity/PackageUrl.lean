/-
Package URLs, the one-line texts of coordinates: the scheme, the ecosystem,
an optional namespace, the name of the package and an optional version.
Qualifiers and a subpath at the end are ignored.

The namespace is everything before the last slash, and the version
everything after the last at sign, unless nothing or a slash stands before
that sign.
-/
import Clearance.Artifact.Error
import Clearance.Identity.Coordinate
import Clearance.Text.Parts

namespace Clearance

open Artifact (Error)

/-- The ecosystem that a package URL names, in any case of the letters. -/
def Ecosystem.parse (name : String) : Except Error Ecosystem :=
  let name := Text.lowerAscii name
  match Ecosystem.ofName? name with
  | some e => .ok e
  | none => .error (.unknownFormat ("package-url type '" ++ name ++ "'"))

namespace Coordinate

-- ============================================================== writing

/-- The namespace of a package, empty where there is none, and the name
under it. -/
def path : Coordinate → String × String
  | .maven group artifact _ => (group, artifact)
  | .javaScript artifact name _ => (name, artifact)
  | .bundle name _ => ("", name)
  | .dotNet id _ => ("", id)
  | .generic name _ => ("", name)

/-- The package URL of a coordinate. -/
def purl (c : Coordinate) : String :=
  let (space, name) := c.path
  "pkg:" ++ c.ecosystem.name ++ "/" ++ (if space.isEmpty then "" else space ++ "/") ++ name
    ++ (if c.version.isEmpty then "" else "@" ++ c.version)

-- ============================================================== reading

/-- A path without its version, and the version. -/
def splitVersion (path : List Char) : List Char × List Char :=
  match Text.splitLast (· == '@') path with
  | some (before, version) =>
    if before.isEmpty || before.getLast? == some '/' then (path, []) else (before, version)
  | none => (path, [])

/-- The namespace of a path and the name under it. -/
def splitSpace (path : List Char) : List Char × List Char :=
  (Text.splitLast (· == '/') path).getD ([], path)

/-- The coordinate of a package from the parts of its URL. Packages of npm
without a namespace take their name for it, and the ecosystems after it
have none. -/
def ofPath (e : Ecosystem) (space name version : String) : Coordinate :=
  trimmed <| match e with
    | .maven => .maven space name version
    | .npm => .javaScript name (if space.isEmpty then name else space) version
    | .p2 => .bundle name version
    | .nuget => .dotNet name version
    | .generic => .generic name version

/-- The coordinate that a package URL denotes. -/
def parsePurl (input : String) : Except Error Coordinate := do
  let malformed {α : Type} (reason : String) : Except Error α :=
    .error (.malformedCoordinate input reason)
  match Text.dropStart? "pkg:".toList (Text.trimChars input.toList) with
  | none => malformed "missing 'pkg:' scheme"
  | some rest =>
    let rest := rest.takeWhile fun c => c != '?' && c != '#'
    match Text.splitFirst (· == '/') rest with
    | none => malformed "missing package name"
    | some (ecosystem, path) =>
      let ecosystem ← Ecosystem.parse (String.ofList ecosystem)
      let (path, version) := splitVersion path
      let (space, name) := splitSpace path
      if name.isEmpty then malformed "missing package name"
      else if ecosystem == .maven && space.isEmpty then
        malformed "maven coordinates need a group id"
      else
        .ok (ofPath ecosystem (String.ofList space) (String.ofList name) (String.ofList version))

end Coordinate

end Clearance
