/-
Reports: the messages of merging and processing, in the order in which
they were recorded. A message is about a selector, about an artifact, or
about nothing in particular.
-/
import Clearance.Artifact.Selector
import Clearance.Policy.Error

namespace Clearance

/-- What kind of thing a message tells. -/
inductive Category where
  | conflictingConfigurations
  | addArtifact
  | removeArtifact
  | artifactIsProprietary
  | overrideArtifactAttributes
  | ignoreForArtifactResolving
  | duplicateArtifact
  | missingLicenseText
  | unnecessaryConfig
  deriving DecidableEq, Repr

namespace Category

/-- The name of a category in written forms. -/
def formName : Category → String
  | .conflictingConfigurations => "CONFLICTING_CONFIGURATIONS"
  | .addArtifact => "ADD_ARTIFACT"
  | .removeArtifact => "REMOVE_ARTIFACT"
  | .artifactIsProprietary => "ARTIFACT_IS_PROPRIETARY"
  | .overrideArtifactAttributes => "OVERRIDE_ARTIFACT_ATTRIBUTES"
  | .ignoreForArtifactResolving => "IGNORE_FOR_ARTIFACT_RESOLVING"
  | .duplicateArtifact => "DUPLICATE_ARTIFACT"
  | .missingLicenseText => "MISSING_LICENSE_TEXT"
  | .unnecessaryConfig => "UNNECESSARY_CONFIG"

/-- The name of a category in reports. One of them differs from the
written form. -/
def name : Category → String
  | .ignoreForArtifactResolving => "IGNORE_FOR_ARTIFACTRESOLVING"
  | c => c.formName

end Category

/-- What a message is about. -/
inductive Subject where
  | everything
  | selector (selector : Selector)
  /-- An artifact, by its identity. -/
  | artifact (identity : List Identifier)
  deriving DecidableEq, Repr

/-- The text of a subject. -/
def Subject.render : Subject → String
  | .everything => "-"
  | .selector s => "selector " ++ s.render
  | .artifact ids => "artifact " ++ Identifier.renderAll ids

/-- A message. -/
structure Message where
  subject : Subject
  category : Category
  text : String
  deriving DecidableEq, Repr

namespace Message

/-- A message about an artifact. -/
def aboutArtifact (a : Artifact) (category : Category) (text : String) : Message :=
  ⟨.artifact a.identity, category, text⟩

/-- The text of a message with its category and subject. -/
def render (m : Message) : String :=
  m.category.name ++ " [" ++ m.subject.render ++ "] " ++ m.text

/-- The written form of a message. -/
def toJson (m : Message) : Json :=
  .record [("subject", .text m.subject.render), ("category", .text m.category.formName),
    ("message", .text m.text)]

end Message

/-- The messages that were recorded so far. -/
abbrev Report := List Message

namespace Report

/-- The messages of one category. -/
def ofCategory (r : Report) (c : Category) : Report := r.filter fun m => m.category == c

/-- The written form of a report. -/
def toJson (r : Report) : Json := .record [("messages", .list (r.map Message.toJson))]

/-- Fails if anything was recorded. -/
def check (r : Report) : Except Policy.Error Unit :=
  if r.isEmpty then .ok () else .error (.conflictsPresent r.length)

end Report

end Clearance
