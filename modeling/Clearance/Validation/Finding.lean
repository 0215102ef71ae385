/-
Findings: what a validation has to say about an artifact, and how severe
it is. A run fails when a finding is at least as severe as its limit.
-/
import Clearance.Artifact.Basic
import Clearance.Policy.Error

namespace Clearance

/-- The severity of a finding. -/
inductive Severity where
  | info
  | warn
  | fail
  deriving DecidableEq, Repr

namespace Severity

/-- The place of a severity in the order. -/
def rank : Severity → Nat
  | .info => 0
  | .warn => 1
  | .fail => 2

/-- The name of a severity. -/
def name : Severity → String
  | .info => "INFO"
  | .warn => "WARN"
  | .fail => "FAIL"

/-- A severity as the description of a workflow shows it. -/
def shown (s : Severity) : String := (Text.lowerAscii s.name).capitalize

/-- The severity with a name. -/
def ofName? (name : String) : Option Severity :=
  [info, warn, fail].find? fun s => s.name == name

end Severity

/-- What can go wrong in a run of a workflow. -/
inductive Workflow.Error where
  /-- There are findings at or above the limit. -/
  | policyViolations (count : Nat)
  | configuration (error : Policy.Error)
  deriving DecidableEq, Repr

/-- The text of an error. -/
def Workflow.Error.message : Workflow.Error → String
  | .policyViolations count =>
    toString count ++ " policy violations at or above the failing severity"
  | .configuration error => "configuration error: " ++ error.message

/-- What a validation has found. -/
structure Finding where
  rule : String
  description : String
  severity : Severity
  /-- The identity of the artifact. -/
  identity : List Identifier
  deriving DecidableEq, Repr

namespace Finding

/-- A finding about an artifact. -/
def about (a : Artifact) (severity : Severity) (rule description : String) : Finding :=
  ⟨rule, description, severity, a.identity⟩

/-- The text of a finding. -/
def render (f : Finding) : String :=
  f.severity.name ++ " " ++ f.rule ++ " " ++ Identifier.renderAll f.identity ++ ": "
    ++ f.description

/-- The written form of a finding. -/
def toJson (f : Finding) : Json :=
  .record [("rule", .text f.rule), ("description", .text f.description),
    ("severity", .text f.severity.name), ("artifact", .text (Identifier.renderAll f.identity))]

end Finding

/-- The findings of one or more validations. -/
abbrev Evaluation := List Finding

namespace Evaluation

/-- The findings at or above a severity. -/
def atLeast (e : Evaluation) (limit : Severity) : Evaluation :=
  e.filter fun f => limit.rank ≤ f.severity.rank

/-- Fails if there is a finding at or above a severity. -/
def check (e : Evaluation) (limit : Severity) : Except Workflow.Error Unit :=
  let count := (e.atLeast limit).length
  if count == 0 then .ok () else .error (.policyViolations count)

/-- The written form of an evaluation. -/
def toJson (e : Evaluation) : Json := .record [("results", .list (e.map Finding.toJson))]

end Evaluation

end Clearance
