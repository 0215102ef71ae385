/-
Validation of sources. Every artifact with Maven coordinates that is not
proprietary has to come with its sources, and with itself to compare them
to. The policy says which artifacts need not, and whether it is a failure
when others do not.
-/
import Clearance.Policy.Basic
import Clearance.Validation.Finding

namespace Clearance.Sources

/-- Whether an artifact may be without sources. -/
def mayMiss (p : Policy) (a : Artifact) : Bool := p.validMissing.any fun s => s.selects a

/-- Whether an artifact may have sources that are incomplete. -/
def mayBeIncomplete (p : Policy) (a : Artifact) : Bool :=
  mayMiss p a || p.validIncomplete.any fun s => s.selects a

/-- The severity of a finding that may be a failure. -/
def severity (fails : Bool) : Severity := if fails then .fail else .warn

/-- The finding about an artifact that has no sources. -/
def missing (p : Policy) (a : Artifact) : Finding :=
  let rule := "SourceValidator::noSourceJar"
  if mayMiss p a then
    .about a .info rule "Artifact has no jar sources but is handled as valid."
  else .about a (severity p.failOnMissing) rule "No sources-jar available."

/-- The finding about an artifact that is not there itself. -/
def incomplete (p : Policy) (a : Artifact) : Finding :=
  let rule := "SourceValidator::noJar"
  if mayBeIncomplete p a then
    .about a .info rule "Artifact has no jar to verify sources but is handled as valid."
  else .about a (severity p.failOnIncomplete) rule
    "The artifact has no jar. The sources thus can not be verified"

/-- The finding about an artifact, if there is one. -/
def finding? (p : Policy) (a : Artifact) : Option Finding :=
  if !a.has (.path .sourceFile) then some (missing p a)
  else if !a.has (.path .file) then some (incomplete p a)
  else none

/-- Whether an artifact needs sources at all. -/
def isChecked (a : Artifact) : Bool := !a.proprietary && a.has (.coordinates .maven)

/-- The findings about some artifacts. -/
def findings (p : Policy) (artifacts : List Artifact) : Evaluation :=
  (artifacts.filter isChecked).filterMap (finding? p)

end Clearance.Sources
