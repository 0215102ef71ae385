/-
Workflows: stages that change a list of artifacts one after another, and
validations that look at what comes out. The messages of the stages go to
a report, the findings of the validations make up an evaluation.

The standard workflow of a policy looks for entries that are not needed,
removes, adds and overrides, and then validates security issues and
sources.
-/
import Clearance.Policy.Merge
import Clearance.Stage.Addition
import Clearance.Stage.Enrichment
import Clearance.Stage.Overriding
import Clearance.Stage.Removal
import Clearance.Stage.Unneeded
import Clearance.Validation.Security
import Clearance.Validation.Sources

namespace Clearance

-- =============================================================== stages

/-- A stage of a workflow. -/
inductive Stage where
  | check (policy : Policy)
  | remove (policy : Policy)
  | add (policy : Policy)
  | override (policy : Policy)
  | enrich (catalogue : Catalogue)

namespace Stage

/-- The name of a stage. -/
def name : Stage → String
  | .check _ => "ConfigurationChecker"
  | .remove _ => "RemoveConfiguredArtifacts"
  | .add _ => "AddConfiguredArtifacts"
  | .override _ => "ApplyOverrides"
  | .enrich _ => "EnrichLicenses"

/-- Changes every artifact of a list, and collects the messages. -/
def each (change : Artifact → Artifact × List Message) (artifacts : List Artifact) :
    List Artifact × List Message :=
  let results := artifacts.map change
  (results.map Prod.fst, results.flatMap Prod.snd)

/-- The artifacts after a stage, and its messages. -/
def run (artifacts : List Artifact) : Stage → List Artifact × List Message
  | .check p => (artifacts, unneededMessages p artifacts)
  | .remove p => (kept p artifacts, removalMessages p artifacts)
  | .add p => addArtifacts artifacts p.added
  | .override p => each (overrideArtifact p) artifacts
  | .enrich c => each (enrichArtifact c) artifacts

/-- The artifacts after some stages, and all their messages. -/
def runAll : List Stage → List Artifact → List Artifact × List Message
  | [], artifacts => (artifacts, [])
  | stage :: rest, artifacts =>
    let (artifacts, messages) := stage.run artifacts
    let (artifacts, further) := runAll rest artifacts
    (artifacts, messages ++ further)

end Stage

-- ========================================================== validations

/-- A validation at the end of a workflow. -/
inductive Validation where
  | security (policy : Policy) (settings : SecuritySettings) (today : Date)
  | sources (policy : Policy)

namespace Validation

/-- The name of a validation. -/
def name : Validation → String
  | .security _ _ _ => "SecurityIssueValidator"
  | .sources _ => "SourceValidator"

/-- What a validation finds. -/
def findings (artifacts : List Artifact) : Validation → Evaluation
  | .security p settings today => Security.findings p settings today artifacts
  | .sources p => Sources.findings p artifacts

end Validation

-- ============================================================ workflows

/-- A workflow. -/
structure Workflow where
  stages : List Stage
  validations : List Validation
  /-- From which severity on a finding fails the run. -/
  failOn : Severity

namespace Workflow

/-- The settings of the standard workflow. -/
structure Settings where
  security : SecuritySettings
  failOn : Severity
  deriving BEq

/-- The settings that nobody changed. -/
def Settings.usual : Settings := ⟨.usual, .fail⟩

/-- What a run comes to. -/
structure Outcome where
  artifacts : List Artifact
  evaluation : Evaluation

/-- The standard workflow of a policy. -/
def standard (p : Policy) (settings : Settings) (today : Date) : Workflow :=
  { stages := [.check p, .remove p, .add p, .override p]
    validations := [.security p settings.security today, .sources p]
    failOn := settings.failOn }

/-- The standard workflow of several policies, which must not be in
conflict. -/
def ofPolicies (ps : List Policy) (settings : Settings) (today : Date) (report : Report) :
    Except Error Workflow × Report :=
  let (merged, report) := Policy.mergeAndCheck report ps
  ((merged.mapError .configuration).map fun p => standard p settings today, report)

/-- Runs a workflow and gives what it comes to with its messages. -/
def run (w : Workflow) (artifacts : List Artifact) : Outcome × List Message :=
  let (artifacts, messages) := Stage.runAll w.stages artifacts
  (⟨artifacts, w.validations.flatMap fun v => v.findings artifacts⟩, messages)

/-- Runs a workflow, which must not find anything from its limit on. -/
def runAndCheck (w : Workflow) (artifacts : List Artifact) :
    Except Error Outcome × List Message :=
  let (outcome, messages) := w.run artifacts
  ((outcome.evaluation.check w.failOn).map fun _ => outcome, messages)

/-- The text of a workflow: the names of its parts. -/
def render (w : Workflow) : String :=
  let names (ss : List String) := "[" ++ ", ".intercalate (ss.map Text.quoted) ++ "]"
  "Workflow \x7b processors: " ++ names (w.stages.map Stage.name) ++ ", checkers: "
    ++ names (w.validations.map Validation.name) ++ ", fail_on: " ++ w.failOn.shown ++ " \x7d"

end Workflow

end Clearance
