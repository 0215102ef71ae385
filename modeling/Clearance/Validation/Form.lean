/-
The written forms of severities and of settings. Settings that are left
out have their usual values.
-/
import Clearance.Artifact.Form
import Clearance.Workflow

namespace Clearance

variable {ν : Type} [Readable ν]

open Readable

/-- The written form of a severity. -/
def Severity.toJson (s : Severity) : Json := .text s.name

/-- The severity that a value describes. -/
def Severity.ofValue? (v : ν) : Option Severity := (choice? v).bind Severity.ofName?

/-- The written form of security settings. -/
def SecuritySettings.toJson (s : SecuritySettings) : Json :=
  .record [("forbidden-statuses", .list (s.forbiddenStatuses.map IssueStatus.toJson)),
    ("forbidden-status-severity", s.statusSeverity.toJson),
    ("severity-limit", Json.ofFloat s.limit),
    ("severity-limit-severity", s.limitSeverity.toJson),
    ("ignored-references", Json.texts s.ignoredReferences)]

/-- The security settings that a value describes. -/
def SecuritySettings.ofValue? (v : ν) : Option SecuritySettings := do
  let fields ← record? false
    ["forbidden-statuses", "forbidden-status-severity", "severity-limit",
      "severity-limit-severity", "ignored-references"] v
  let forbiddenStatuses ←
    withDefault? [] (listOf? IssueStatus.ofValue?) fields "forbidden-statuses"
  let statusSeverity ←
    withDefault? .fail Severity.ofValue? fields "forbidden-status-severity"
  let limit ← withDefault? SecuritySettings.largest number? fields "severity-limit"
  let limitSeverity ← withDefault? .fail Severity.ofValue? fields "severity-limit-severity"
  let ignoredReferences ← withDefault? [] (listOf? text?) fields "ignored-references"
  some { forbiddenStatuses, statusSeverity, limit, limitSeverity, ignoredReferences }

/-- The written form of settings. -/
def Workflow.Settings.toJson (s : Workflow.Settings) : Json :=
  .record [("security", s.security.toJson), ("fail-on", s.failOn.toJson)]

/-- The settings that a value describes. -/
def Workflow.Settings.ofValue? (v : ν) : Option Workflow.Settings := do
  let fields ← record? false ["security", "fail-on"] v
  let security ← withDefault? .usual SecuritySettings.ofValue? fields "security"
  let failOn ← withDefault? .fail Severity.ofValue? fields "fail-on"
  some { security, failOn }

end Clearance
