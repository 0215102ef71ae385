/-
What can go wrong when artifacts are described from outside, and how it is
told.
-/
import Clearance.License.Error

namespace Clearance.Artifact

/-- An error about the description of an artifact. -/
inductive Error where
  /-- A text that is no package URL. -/
  | malformedCoordinate (input reason : String)
  /-- A name that is not among the known ones. -/
  | unknownFormat (name : String)
  /-- A text that is no digest. -/
  | invalidDigest (input reason : String)
  | license (error : License.Error)
  deriving DecidableEq, Repr

/-- The text of an error. -/
def Error.message : Error → String
  | .malformedCoordinate input reason => "malformed coordinate '" ++ input ++ "': " ++ reason
  | .unknownFormat name => "unknown format: " ++ name
  | .invalidDigest input reason => "invalid digest '" ++ input ++ "': " ++ reason
  | .license error => "license error: " ++ error.message

end Clearance.Artifact
