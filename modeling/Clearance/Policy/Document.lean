/-
Policy documents: policies as people write them. Selectors, coordinates,
digests and licenses are texts in a document and are checked when the
document is turned into the entries of a policy. The first part that does
not make sense is the error.
-/
import Clearance.License.Parser
import Clearance.Policy.Basic
import Clearance.Policy.Error

namespace Clearance

open Policy (Entry Error)

-- =============================================================== pieces

/-- A selector in a document. Name and digest together are one criterion,
and every package URL is one more. -/
structure SelectorDocument where
  filename : Option String
  hash : Option String
  coordinates : List String
  deriving DecidableEq, Repr

/-- An artifact in a document. -/
structure ArtifactDocument where
  filenames : List String
  hash : Option String
  coordinates : List String
  declaredLicense : Option String
  observedLicense : Option String
  overriddenLicense : Option String
  copyright : Option String
  homepage : Option String
  sourceUrl : Option String
  proprietary : Bool
  analysisSource : Option String
  deriving DecidableEq, Repr

/-- An override in a document. -/
structure OverrideDocument where
  selector : SelectorDocument
  artifact : ArtifactDocument
  deriving DecidableEq, Repr

/-- A final license in a document. -/
structure FinalLicenseDocument where
  selector : SelectorDocument
  license : String
  deriving DecidableEq, Repr

/-- Known issues in a document. -/
structure IssuesDocument where
  selector : SelectorDocument
  issues : List Issue
  deriving Repr

/-- A suppressed issue in a document. -/
structure SuppressionDocument where
  reference : String
  selector : SelectorDocument
  date : Date

/-- A policy document. -/
structure Document where
  ignored : List SelectorDocument
  overrides : List OverrideDocument
  removed : List SelectorDocument
  added : List ArtifactDocument
  validMissing : List SelectorDocument
  validIncomplete : List SelectorDocument
  finalLicenses : List FinalLicenseDocument
  issues : List IssuesDocument
  suppressed : List SuppressionDocument
  failOnIncomplete : Bool
  failOnMissing : Bool

/-- The document that says nothing. -/
def Document.empty : Document := ⟨[], [], [], [], [], [], [], [], [], false, false⟩

-- =========================================================== converting

/-- The digest that a text in a document denotes. -/
def Document.digest (hash : String) : Except Error Digest :=
  (Digest.parse hash).mapError .artifact

/-- The coordinates that package URLs in a document denote. -/
def Document.coordinates (purls : List String) : Except Error (List Coordinate) :=
  purls.mapM fun purl => (Coordinate.parsePurl purl).mapError .artifact

/-- The license that a text in a document denotes. -/
def Document.license (text : String) : Except Error Expression :=
  (Expression.parse text).mapError .license

/-- An optional part of a document. -/
def Document.optional {α β : Type} (convert : α → Except Error β) :
    Option α → Except Error (Option β)
  | none => .ok none
  | some a => (convert a).map some

/-- The selector that is written in a document. -/
def SelectorDocument.selector (d : SelectorDocument) : Except Error Selector := do
  let digest ← Document.optional Document.digest d.hash
  let entry : FileEntry :=
    { filename := d.filename.bind fun name => (FileEntry.named name).filename, digest }
  let coordinates ← Document.coordinates d.coordinates
  let criteria := (if entry.isEmpty then [] else [.file entry])
    ++ coordinates.map Identifier.coordinate
  if criteria.isEmpty then
    .error (.document "selector needs a filename, a hash or at least one coordinate")
  else .ok (.ofList criteria)

namespace ArtifactDocument

/-- The analysis of artifacts that a document describes. -/
def usualSource : String := "CONFIGURATION"

/-- The files of an artifact; the digest belongs to the first of them. -/
def files (names : List String) (digest : Option Digest) : List FileEntry :=
  match names with
  | [] => (digest.map FileEntry.ofDigest).toList
  | first :: rest => { FileEntry.named first with digest } :: rest.map FileEntry.named

/-- The artifact that is written in a document. -/
def artifact (d : ArtifactDocument) : Except Error Artifact := do
  let digest ← Document.optional Document.digest d.hash
  let coordinates ← Document.coordinates d.coordinates
  let declared ← Document.optional Document.license d.declaredLicense
  let observed ← Document.optional Document.license d.observedLicense
  let overridden ← Document.optional Document.license d.overriddenLicense
  let facts := (files d.filenames digest).map Fact.filename
    ++ coordinates.map Fact.coordinates
    ++ (declared.map (Fact.license .declared)).toList
    ++ (observed.map (Fact.license .observed)).toList
    ++ (overridden.map (Fact.license .overridden)).toList
    ++ (d.copyright.map (Fact.note .copyright)).toList
    ++ (d.homepage.map (Fact.note .homepage)).toList
    ++ (d.sourceUrl.map (Fact.note .sourceUrl)).toList
  let source := d.analysisSource.getD usualSource
  return { Artifact.ofSource source with proprietary := d.proprietary }.addAll facts

end ArtifactDocument

namespace Document

/-- The entries that a document makes. -/
def entries (d : Document) : Except Error (List Entry) := do
  let ignored ← d.ignored.mapM fun s => s.selector.map Entry.ignore
  let overrides ← d.overrides.mapM fun o => do
    let selector ← o.selector.selector
    let artifact ← o.artifact.artifact
    return Entry.override selector artifact
  let removed ← d.removed.mapM fun s => s.selector.map Entry.remove
  let added ← d.added.mapM fun a => a.artifact.map Entry.add
  let validMissing ← d.validMissing.mapM fun s => s.selector.map Entry.validMissing
  let validIncomplete ← d.validIncomplete.mapM fun s => s.selector.map Entry.validIncomplete
  let licenses ← d.finalLicenses.mapM fun l => do
    let selector ← l.selector.selector
    let expression ← license l.license
    return Entry.license selector expression
  let issues ← d.issues.mapM fun i => i.selector.selector.map fun s => Entry.issues s i.issues
  let suppressed ← d.suppressed.mapM fun s => s.selector.selector.map fun selector =>
    Entry.suppress s.reference selector s.date
  return [.failOnIncomplete d.failOnIncomplete, .failOnMissing d.failOnMissing] ++ ignored
    ++ overrides ++ removed ++ added ++ validMissing ++ validIncomplete ++ licenses ++ issues
    ++ suppressed

/-- The policy that a document describes. -/
def policy (d : Document) : Except Error Policy := d.entries.map Policy.ofEntries

end Document

end Clearance
