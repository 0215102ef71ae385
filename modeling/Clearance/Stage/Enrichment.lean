/-
Enriching: the license facts of artifacts get the names and texts of a
catalogue. Licenses that stay without a text are told, each once for an
artifact.
-/
import Clearance.Artifact.FinalLicense
import Clearance.Collection.Sorted
import Clearance.License.Catalogue
import Clearance.Policy.Basic
import Clearance.Policy.Report

namespace Clearance.Stage

/-- The roles of licenses, in the order in which they are enriched. -/
def licenseRoles : List LicenseRole := [.declared, .observed, .overridden, .configured]

/-- Enriches the license of a role. -/
def enrichRole (c : Catalogue) (a : Artifact) (role : LicenseRole) : Artifact :=
  match a.license? role with
  | some e => a.add (.license role (c.enrich e))
  | none => a

/-- The identifiers of the licenses without a text. -/
def withoutText (e : Expression) : List String :=
  (e.licenses.filter fun l => l.text.isNone).map License.id

/-- The identifiers of the licenses of an artifact that stay without a
text, in order. -/
def missingTexts (c : Catalogue) (a : Artifact) : List String :=
  sortDistinct (fun x y => x < y)
    ((licenseRoles.filterMap a.license?).flatMap fun e => withoutText (c.enrich e))

/-- The message about a license without a text. -/
def missingText (a : Artifact) (id : String) : Message :=
  .aboutArtifact a .missingLicenseText ("No license text found for license id [" ++ id ++ "].")

/-- Enriches all licenses of an artifact. -/
def enrichArtifact (c : Catalogue) (a : Artifact) : Artifact × List Message :=
  (licenseRoles.foldl (enrichRole c) a, (missingTexts c a).map (missingText a))

end Clearance.Stage
