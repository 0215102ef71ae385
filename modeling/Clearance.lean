import Clearance.Artifact.Basic
import Clearance.Artifact.Dominance
import Clearance.Artifact.Error
import Clearance.Artifact.Fact
import Clearance.Artifact.FinalLicense
import Clearance.Artifact.Form
import Clearance.Artifact.Issue
import Clearance.Artifact.Kind
import Clearance.Artifact.Sample
import Clearance.Artifact.Selector
import Clearance.Calendar.Date
import Clearance.Collection.Distinct
import Clearance.Collection.Sorted
import Clearance.Collection.Table
import Clearance.Decimal.Numeral
import Clearance.Decimal.Shortest
import Clearance.Hash.Blake3
import Clearance.Hash.Sha256
import Clearance.Hash.Word
import Clearance.Identity.Coordinate
import Clearance.Identity.Digest
import Clearance.Identity.Identifier
import Clearance.Identity.PackageUrl
import Clearance.Identity.Wildcard
import Clearance.Json.Basic
import Clearance.Json.Printer
import Clearance.Json.Readable
import Clearance.Json.Reader
import Clearance.License.Basic
import Clearance.License.Catalogue
import Clearance.License.Chain
import Clearance.License.Error
import Clearance.License.Form
import Clearance.License.Parser
import Clearance.License.Shelf
import Clearance.License.Token
import Clearance.Policy.Basic
import Clearance.Policy.Document
import Clearance.Policy.Error
import Clearance.Policy.Form
import Clearance.Policy.Merge
import Clearance.Policy.Notation
import Clearance.Policy.Report
import Clearance.Proofs.Accounting
import Clearance.Proofs.Additions
import Clearance.Proofs.Agreement
import Clearance.Proofs.Answers
import Clearance.Proofs.Breadth
import Clearance.Proofs.ByteOrder
import Clearance.Proofs.Canonical
import Clearance.Proofs.Chains
import Clearance.Proofs.Classification
import Clearance.Proofs.Comparison
import Clearance.Proofs.Composition
import Clearance.Proofs.Conclusions
import Clearance.Proofs.Containment
import Clearance.Proofs.Conversion
import Clearance.Proofs.Criteria
import Clearance.Proofs.Definite
import Clearance.Proofs.Denotations
import Clearance.Proofs.Descriptions
import Clearance.Proofs.Digests
import Clearance.Proofs.Distinct
import Clearance.Proofs.Documents
import Clearance.Proofs.Dominance
import Clearance.Proofs.Enrichment
import Clearance.Proofs.Equality
import Clearance.Proofs.Exemption
import Clearance.Proofs.Expiry
import Clearance.Proofs.Faults
import Clearance.Proofs.FinalLicenses
import Clearance.Proofs.Forms
import Clearance.Proofs.Grammar
import Clearance.Proofs.Grouping
import Clearance.Proofs.Joining
import Clearance.Proofs.Leaves
import Clearance.Proofs.Leniency
import Clearance.Proofs.Likeness
import Clearance.Proofs.Nameless
import Clearance.Proofs.Necessity
import Clearance.Proofs.Order
import Clearance.Proofs.Overrides
import Clearance.Proofs.PackageUrls
import Clearance.Proofs.Patterns
import Clearance.Proofs.Rearrangement
import Clearance.Proofs.Recognition
import Clearance.Proofs.Regexes
import Clearance.Proofs.Reloading
import Clearance.Proofs.Rendering
import Clearance.Proofs.Reordering
import Clearance.Proofs.Repetition
import Clearance.Proofs.Sections
import Clearance.Proofs.Separators
import Clearance.Proofs.Settlement
import Clearance.Proofs.Shelves
import Clearance.Proofs.Spellings
import Clearance.Proofs.Stages
import Clearance.Proofs.Suppression
import Clearance.Proofs.Tokens
import Clearance.Proofs.Vulnerabilities
import Clearance.Proofs.Wholeness
import Clearance.Readable
import Clearance.Shape
import Clearance.Stage.Addition
import Clearance.Stage.Enrichment
import Clearance.Stage.Overriding
import Clearance.Stage.Removal
import Clearance.Stage.Unneeded
import Clearance.Storage.Files
import Clearance.Storage.Path
import Clearance.Text.Blank
import Clearance.Text.Hex
import Clearance.Text.Parts
import Clearance.Text.Quoted
import Clearance.Text.Shown
import Clearance.Text.UpperCase
import Clearance.Toml.Readable
import Clearance.Toml.Reader
import Clearance.Toml.Scalar
import Clearance.Toml.Value
import Clearance.Validation.Finding
import Clearance.Validation.Form
import Clearance.Validation.Security
import Clearance.Validation.Sources
import Clearance.Workflow
import Clearance.Yaml.Aliases
import Clearance.Yaml.Lexer
import Clearance.Yaml.Node
import Clearance.Yaml.Readable
import Clearance.Yaml.Scalar
import Clearance.Yaml.Token
