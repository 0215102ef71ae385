/-
The written forms of policy documents. Documents are strict: a name that
they do not know is an error. Parts of an entry that are left out are not
written, the sections of a document always are.
-/
import Clearance.Artifact.Form
import Clearance.Policy.Document

namespace Clearance

variable {ν : Type} [Readable ν]

open Readable

/-- A field that is left out when its list is empty. -/
def Json.texts? (name : String) (ss : List String) : List (String × Json) :=
  Json.field? name (if ss.isEmpty then none else some (Json.texts ss))

/-- The day that a value describes. -/
def Date.ofValue? (v : ν) : Option Date := (text? v).bind Date.read?

-- =============================================================== pieces

/-- The written form of a selector. -/
def SelectorDocument.toJson (d : SelectorDocument) : Json :=
  .record (Json.field? "filename" (d.filename.map .text)
    ++ Json.field? "hash" (d.hash.map .text) ++ Json.texts? "coordinates" d.coordinates)

/-- The parts of a selector. -/
def SelectorDocument.shape : Shape :=
  .record [("filename", .single), ("hash", .single), ("coordinates", .list .single)]

/-- The selector that a value describes. -/
def SelectorDocument.ofValue? (v : ν) : Option SelectorDocument := do
  let fields ← record? true SelectorDocument.shape.names v
  let filename ← optional? text? fields "filename"
  let hash ← optional? text? fields "hash"
  let coordinates ← withDefault? [] (listOf? text?) fields "coordinates"
  some { filename, hash, coordinates }

/-- The written form of an artifact. -/
def ArtifactDocument.toJson (d : ArtifactDocument) : Json :=
  let text (name : String) (s : Option String) := Json.field? name (s.map .text)
  .record (Json.texts? "filenames" d.filenames ++ text "hash" d.hash
    ++ Json.texts? "coordinates" d.coordinates ++ text "declared-license" d.declaredLicense
    ++ text "observed-license" d.observedLicense
    ++ text "overridden-license" d.overriddenLicense ++ text "copyright" d.copyright
    ++ text "homepage" d.homepage ++ text "source-url" d.sourceUrl
    ++ [("proprietary", .flag d.proprietary)] ++ text "analysis-source" d.analysisSource)

/-- The parts of an artifact. -/
def ArtifactDocument.shape : Shape :=
  .record [("filenames", .list .single), ("hash", .single), ("coordinates", .list .single),
    ("declared-license", .single), ("observed-license", .single),
    ("overridden-license", .single), ("copyright", .single), ("homepage", .single),
    ("source-url", .single), ("proprietary", .single), ("analysis-source", .single)]

/-- The artifact that a value describes. -/
def ArtifactDocument.ofValue? (v : ν) : Option ArtifactDocument := do
  let fields ← record? true ArtifactDocument.shape.names v
  let filenames ← withDefault? [] (listOf? text?) fields "filenames"
  let hash ← optional? text? fields "hash"
  let coordinates ← withDefault? [] (listOf? text?) fields "coordinates"
  let declaredLicense ← optional? text? fields "declared-license"
  let observedLicense ← optional? text? fields "observed-license"
  let overriddenLicense ← optional? text? fields "overridden-license"
  let copyright ← optional? text? fields "copyright"
  let homepage ← optional? text? fields "homepage"
  let sourceUrl ← optional? text? fields "source-url"
  let proprietary ← withDefault? false flag? fields "proprietary"
  let analysisSource ← optional? text? fields "analysis-source"
  some { filenames, hash, coordinates, declaredLicense, observedLicense, overriddenLicense,
         copyright, homepage, sourceUrl, proprietary, analysisSource }

/-- The written form of an override. -/
def OverrideDocument.toJson (d : OverrideDocument) : Json :=
  .record [("selector", d.selector.toJson), ("artifact", d.artifact.toJson)]

/-- The parts of an override. -/
def OverrideDocument.shape : Shape :=
  .record [("selector", SelectorDocument.shape), ("artifact", ArtifactDocument.shape)]

/-- The override that a value describes. -/
def OverrideDocument.ofValue? (v : ν) : Option OverrideDocument := do
  let fields ← record? true OverrideDocument.shape.names v
  let selector ← required? SelectorDocument.ofValue? fields "selector"
  let artifact ← required? ArtifactDocument.ofValue? fields "artifact"
  some { selector, artifact }

/-- The written form of a final license. -/
def FinalLicenseDocument.toJson (d : FinalLicenseDocument) : Json :=
  .record [("selector", d.selector.toJson), ("license", .text d.license)]

/-- The parts of a final license. -/
def FinalLicenseDocument.shape : Shape :=
  .record [("selector", SelectorDocument.shape), ("license", .single)]

/-- The final license that a value describes. -/
def FinalLicenseDocument.ofValue? (v : ν) : Option FinalLicenseDocument := do
  let fields ← record? true FinalLicenseDocument.shape.names v
  let selector ← required? SelectorDocument.ofValue? fields "selector"
  let license ← required? text? fields "license"
  some { selector, license }

/-- The written form of known issues. -/
def IssuesDocument.toJson (d : IssuesDocument) : Json :=
  .record [("selector", d.selector.toJson), ("issues", .list (d.issues.map Issue.toJson))]

/-- The parts of known issues. -/
def IssuesDocument.shape : Shape :=
  .record [("selector", SelectorDocument.shape), ("issues", .list Issue.shape)]

/-- The known issues that a value describes. -/
def IssuesDocument.ofValue? (v : ν) : Option IssuesDocument := do
  let fields ← record? true IssuesDocument.shape.names v
  let selector ← required? SelectorDocument.ofValue? fields "selector"
  let issues ← withDefault? [] (listOf? Issue.ofValue?) fields "issues"
  some { selector, issues }

/-- The written form of a suppressed issue. -/
def SuppressionDocument.toJson (d : SuppressionDocument) : Json :=
  .record [("reference", .text d.reference), ("selector", d.selector.toJson),
    ("until", .text d.date.render)]

/-- The parts of a suppressed issue. -/
def SuppressionDocument.shape : Shape :=
  .record [("reference", .single), ("selector", SelectorDocument.shape), ("until", .single)]

/-- The suppressed issue that a value describes. -/
def SuppressionDocument.ofValue? (v : ν) : Option SuppressionDocument := do
  let fields ← record? true SuppressionDocument.shape.names v
  let reference ← required? text? fields "reference"
  let selector ← required? SelectorDocument.ofValue? fields "selector"
  let date ← required? Date.ofValue? fields "until"
  some { reference, selector, date }

-- ============================================================ documents

namespace Document

/-- The sections. -/
def shape : Shape :=
  .record [("ignore-for-source-resolving", .list SelectorDocument.shape),
    ("override", .list OverrideDocument.shape),
    ("remove-artifact", .list SelectorDocument.shape),
    ("add-artifact", .list ArtifactDocument.shape),
    ("valid-for-missing-sources", .list SelectorDocument.shape),
    ("valid-for-incomplete-sources", .list SelectorDocument.shape),
    ("final-licenses", .list FinalLicenseDocument.shape),
    ("security-issues", .list IssuesDocument.shape),
    ("suppress-security-issues", .list SuppressionDocument.shape),
    ("fail-on-incomplete-sources", .single), ("fail-on-missing-sources", .single)]

/-- The written form of a document. -/
def toJson (d : Document) : Json :=
  .record
    [("ignore-for-source-resolving", .list (d.ignored.map SelectorDocument.toJson)),
      ("override", .list (d.overrides.map OverrideDocument.toJson)),
      ("remove-artifact", .list (d.removed.map SelectorDocument.toJson)),
      ("add-artifact", .list (d.added.map ArtifactDocument.toJson)),
      ("valid-for-missing-sources", .list (d.validMissing.map SelectorDocument.toJson)),
      ("valid-for-incomplete-sources", .list (d.validIncomplete.map SelectorDocument.toJson)),
      ("final-licenses", .list (d.finalLicenses.map FinalLicenseDocument.toJson)),
      ("security-issues", .list (d.issues.map IssuesDocument.toJson)),
      ("suppress-security-issues", .list (d.suppressed.map SuppressionDocument.toJson)),
      ("fail-on-incomplete-sources", .flag d.failOnIncomplete),
      ("fail-on-missing-sources", .flag d.failOnMissing)]

/-- The document that a value describes. -/
def ofValue? (v : ν) : Option Document := do
  let fields ← record? true shape.names v
  let selectors := withDefault? [] (listOf? SelectorDocument.ofValue?) fields
  let ignored ← selectors "ignore-for-source-resolving"
  let overrides ← withDefault? [] (listOf? OverrideDocument.ofValue?) fields "override"
  let removed ← selectors "remove-artifact"
  let added ← withDefault? [] (listOf? ArtifactDocument.ofValue?) fields "add-artifact"
  let validMissing ← selectors "valid-for-missing-sources"
  let validIncomplete ← selectors "valid-for-incomplete-sources"
  let finalLicenses ←
    withDefault? [] (listOf? FinalLicenseDocument.ofValue?) fields "final-licenses"
  let issues ← withDefault? [] (listOf? IssuesDocument.ofValue?) fields "security-issues"
  let suppressed ←
    withDefault? [] (listOf? SuppressionDocument.ofValue?) fields "suppress-security-issues"
  let failOnIncomplete ← withDefault? false flag? fields "fail-on-incomplete-sources"
  let failOnMissing ← withDefault? false flag? fields "fail-on-missing-sources"
  some { ignored, overrides, removed, added, validMissing, validIncomplete, finalLicenses,
         issues, suppressed, failOnIncomplete, failOnMissing }

end Document

end Clearance
