/-
Validation of security issues. The issues of an artifact are its own and
those that the policy knows for it. An issue is passed over if its
reference is ignored, if it does not apply, or if it is suppressed until a
later day. Any other issue is found if its status is forbidden, and found
if it is severe enough.
-/
import Clearance.Policy.Basic
import Clearance.Validation.Finding

namespace Clearance

/-- What the validation of security issues looks for. -/
structure SecuritySettings where
  forbiddenStatuses : List IssueStatus
  /-- The severity of findings about statuses. -/
  statusSeverity : Severity
  /-- From which severity on an issue is found. -/
  limit : Float
  /-- The severity of findings about severe issues. -/
  limitSeverity : Severity
  ignoredReferences : List String
  deriving BEq

namespace SecuritySettings

/-- The largest floating-point number. -/
def largest : Float := Float.ofScientific 17976931348623157 false 292

/-- The settings that find next to nothing. -/
def usual : SecuritySettings := ⟨[], .fail, largest, .fail, []⟩

end SecuritySettings

namespace Security

/-- The distinct issues of an artifact: its own, then those of the policy. -/
def issuesOf (p : Policy) (a : Artifact) : List Issue :=
  let own := ((a.ask? .issues).bind Fact.issues?).getD []
  let known := (p.issues.entries.filter fun entry => entry.1.selects a).flatMap Prod.snd
  distinct (own ++ known)

/-- Until when an issue of an artifact is suppressed: of the dates of the
selectors that pick the artifact, the latest one. -/
def suppressedUntil? (p : Policy) (reference : String) (a : Artifact) : Option Date :=
  (p.suppressed.get? reference).bind fun dates =>
    Date.latest? ((dates.entries.filter fun entry => entry.1.selects a).map Prod.snd)

/-- Whether an issue of an artifact is suppressed on a day. -/
def isSuppressed (p : Policy) (today : Date) (reference : String) (a : Artifact) : Bool :=
  (suppressedUntil? p reference a).any fun date => today < date

/-- Whether an issue of an artifact is passed over. -/
def isPassedOver (p : Policy) (settings : SecuritySettings) (today : Date) (a : Artifact)
    (i : Issue) : Bool :=
  settings.ignoredReferences.contains i.reference || i.status == .notApplicable
    || isSuppressed p today i.reference a

/-- The finding about an issue with a forbidden status. -/
def forbidden (settings : SecuritySettings) (a : Artifact) (i : Issue) : Finding :=
  .about a settings.statusSeverity "SecurityIssueValidator::forbiddenSecurityIssueStatus"
    ("The artifact has a security issue [" ++ i.reference ++ "] with forbidden status "
      ++ i.status.name ++ ".")

/-- The finding about an issue that is too severe. -/
def severe (settings : SecuritySettings) (a : Artifact) (i : Issue) : Finding :=
  .about a settings.limitSeverity "SecurityIssueValidator::securityIssueSeverityLimit"
    ("The artifact has a security issue [" ++ i.reference ++ "] with a severity "
      ++ Issue.writeSeverity i.severity ++ ", which is above the limit "
      ++ Issue.writeSeverity settings.limit ++ ".")

/-- The findings about an issue. -/
def findingsOf (p : Policy) (settings : SecuritySettings) (today : Date) (a : Artifact)
    (i : Issue) : List Finding :=
  if isPassedOver p settings today a i then []
  else (if settings.forbiddenStatuses.contains i.status then [forbidden settings a i] else [])
    ++ (if settings.limit ≤ i.severity then [severe settings a i] else [])

/-- The findings about some artifacts. -/
def findings (p : Policy) (settings : SecuritySettings) (today : Date)
    (artifacts : List Artifact) : Evaluation :=
  artifacts.flatMap fun a => (issuesOf p a).flatMap (findingsOf p settings today a)

end Security

end Clearance
