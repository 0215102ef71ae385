/-
Kinds of facts, and the capabilities that kinds share. An artifact has
one fact of each kind, apart from the kind that accumulates: an artifact
may consist of several files.
-/
import Clearance.Identity.Coordinate
import Clearance.Text.Quoted

namespace Clearance

/-- What a license fact says about the license. -/
inductive LicenseRole where
  /-- The publisher declares it. -/
  | declared
  /-- A scan has found it. -/
  | observed
  /-- An override sets it. -/
  | overridden
  /-- The policy fixes it. -/
  | configured
  deriving DecidableEq, Repr

/-- What a fact with a text is about. -/
inductive NoteRole where
  | copyright
  | homepage
  | sourceUrl
  deriving DecidableEq, Repr

/-- What a fact with a path is about. -/
inductive PathRole where
  /-- The artifact itself. -/
  | file
  /-- The sources of the artifact. -/
  | sourceFile
  deriving DecidableEq, Repr

/-- The kind of a fact. -/
inductive Kind where
  | coordinates (ecosystem : Ecosystem)
  | filename
  | license (role : LicenseRole)
  | note (role : NoteRole)
  | issues
  | vcs
  | path (role : PathRole)
  | matchState
  | changeStatus
  | custom (name : String)
  deriving DecidableEq, Repr

/-- What kinds of facts may have in common. -/
inductive Capability where
  | coordinates
  | licenseInformation
  | identifier
  deriving DecidableEq, Repr

namespace Kind

/-- Whether an artifact may have several facts of the kind. -/
def accumulates (k : Kind) : Bool := k == .filename

/-- Whether a kind has a capability. -/
def hasCapability : Capability → Kind → Bool
  | .coordinates, .coordinates _ => true
  | .licenseInformation, .license _ => true
  | .identifier, .coordinates _ => true
  | .identifier, .filename => true
  | _, _ => false

/-- The kinds that have no name of their own, in order. -/
def fixed : List Kind :=
  [.coordinates .maven, .coordinates .npm, .coordinates .p2, .coordinates .nuget,
    .coordinates .generic, .filename, .license .declared, .license .observed,
    .license .overridden, .license .configured, .note .copyright, .issues, .vcs,
    .note .homepage, .note .sourceUrl, .path .file, .path .sourceFile, .matchState,
    .changeStatus]

/-- The words of a kind's name; of a kind with a name of its own, what it
is. -/
def words : Kind → List String
  | .coordinates .maven => ["maven", "coordinates"]
  | .coordinates .npm => ["java", "script", "coordinates"]
  | .coordinates .p2 => ["bundle", "coordinates"]
  | .coordinates .nuget => ["dot", "net", "coordinates"]
  | .coordinates .generic => ["generic", "coordinates"]
  | .filename => ["filename"]
  | .license .declared => ["declared", "license"]
  | .license .observed => ["observed", "license"]
  | .license .overridden => ["overridden", "license"]
  | .license .configured => ["configured", "license"]
  | .note .copyright => ["copyright"]
  | .issues => ["issues"]
  | .vcs => ["vcs", "info"]
  | .note .homepage => ["homepage"]
  | .note .sourceUrl => ["source", "url"]
  | .path .file => ["file"]
  | .path .sourceFile => ["source", "file"]
  | .matchState => ["match", "state"]
  | .changeStatus => ["change", "status"]
  | .custom _ => ["custom"]

/-- The name of a kind in written forms. -/
def formName (k : Kind) : String := "-".intercalate k.words

/-- A kind as messages show it. -/
def shown : Kind → String
  | .custom name => "Custom(" ++ Text.quoted name ++ ")"
  | k => String.join (k.words.map String.capitalize)

/-- Key of the order of kinds: the place among the fixed ones; after them
come the others by their names. -/
def key : Kind → Nat × String
  | .custom name => (fixed.length, name)
  | k => (fixed.idxOf k, "")

end Kind

end Clearance
