/-
What can go wrong with policies, and how it is told.
-/
import Clearance.Artifact.Error

namespace Clearance.Policy

/-- An error about policies. -/
inductive Error where
  /-- The report of a merge holds messages. -/
  | conflictsPresent (count : Nat)
  /-- A text that is no document in its notation. -/
  | unreadable
  /-- A document that does not make sense. -/
  | document (reason : String)
  /-- A file that cannot be read. -/
  | io (path reason : String)
  | artifact (error : Artifact.Error)
  | license (error : License.Error)
  deriving DecidableEq, Repr

/-- The text of an error. -/
def Error.message : Error → String
  | .conflictsPresent count =>
    "there are " ++ toString count ++ " conflicting configurations, please have a look at the "
      ++ "processing report and resolve them"
  | .unreadable => "invalid configuration document: the text cannot be read"
  | .document reason => "invalid configuration document: " ++ reason
  | .io path reason => "io error reading " ++ path ++ ": " ++ reason
  | .artifact error => "artifact error: " ++ error.message
  | .license error => "license error: " ++ error.message

end Clearance.Policy
