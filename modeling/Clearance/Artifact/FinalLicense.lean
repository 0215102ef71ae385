/-
The license that counts for an artifact. A configured license wins, then
an overridden one. Otherwise the declared and the observed license apply
together, and the observed one alone is enough if its text already holds
that of the declared one and leaves no choice.
-/
import Clearance.Artifact.Basic
import Clearance.Text.Parts

namespace Clearance.Artifact

/-- The license of an artifact in one role. -/
def license? (a : Artifact) (role : LicenseRole) : Option Expression :=
  (a.ask? (.license role)).bind Fact.license?

/-- A declared and an observed license together. -/
def reconcile (declared observed : Expression) : Expression :=
  let text := observed.evaluate.toList
  if Text.occursIn declared.evaluate.toList text && !Text.occursIn " OR ".toList text then
    observed
  else .statement .and declared observed

/-- The license that counts for an artifact. -/
def finalLicense (a : Artifact) : Expression :=
  match a.license? .configured, a.license? .overridden with
  | some e, _ => e
  | none, some e => e
  | none, none =>
    match a.license? .declared, a.license? .observed with
    | some declared, some observed => reconcile declared observed
    | some only, none => only
    | none, some only => only
    | none, none => .empty

end Clearance.Artifact
