/-
Security issues of artifacts: a reference, how the issue was assessed, and
how severe it is.
-/
import Clearance.Artifact.Error
import Clearance.Decimal.Shortest
import Clearance.Text.Blank
import Clearance.Text.Parts

namespace Clearance

open Artifact (Error)

/-- How a security issue was assessed. -/
inductive IssueStatus where
  /-- Reported and not assessed yet. -/
  | opened
  /-- Accepted as relevant. -/
  | acknowledged
  /-- Of no effect on the artifact. -/
  | notApplicable
  /-- Confirmed to affect the artifact. -/
  | confirmed
  deriving DecidableEq, Repr

namespace IssueStatus

/-- The name of a status. -/
def name : IssueStatus → String
  | .opened => "OPEN"
  | .acknowledged => "ACKNOWLEDGED"
  | .notApplicable => "NOT_APPLICABLE"
  | .confirmed => "CONFIRMED"

/-- The status with a name. -/
def ofName? (name : String) : Option IssueStatus :=
  [opened, acknowledged, notApplicable, confirmed].find? fun s => s.name == name

/-- The status that a text names, in any case of the letters; dashes and
spaces stand for underscores. -/
def parse (text : String) : Except Error IssueStatus :=
  let name := String.ofList ((Text.upperAscii (Text.trim text)).toList.map fun c =>
    if c == '-' || c == ' ' then '_' else c)
  match ofName? name with
  | some status => .ok status
  | none => .error (.unknownFormat ("security issue status '" ++ name ++ "'"))

end IssueStatus

/-- A security issue. -/
structure Issue where
  reference : String
  status : IssueStatus
  severity : Float
  url : Option String
  deriving BEq, Repr

/-- How messages write severities: never with an exponent. -/
def Issue.severityStyle : Decimal.Style := ⟨.toEven, "", none⟩

/-- The text of a severity. -/
def Issue.writeSeverity (x : Float) : String := Issue.severityStyle.write x

end Clearance
