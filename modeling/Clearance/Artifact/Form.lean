/-
The written forms of artifacts and everything they consist of. Names in
written forms are in small letters with dashes; fields that are not known
are left out. What is read need not be in normal form, so selectors are
ordered and facts are added one after another when they are read.
-/
import Clearance.Artifact.Selector
import Clearance.License.Form

namespace Clearance

variable {ν : Type} [Readable ν]

open Readable

-- ========================================================== identifiers

/-- The digest that a value describes. -/
def Digest.ofValue? (v : ν) : Option Digest :=
  (text? v).bind fun s => (Digest.parse s).toOption

/-- The written form of a file entry. -/
def FileEntry.toJson (e : FileEntry) : Json :=
  .record (Json.field? "filename" (e.filename.map .text)
    ++ Json.field? "digest" (e.digest.map fun d => .text d.render))

/-- The file entry that a value describes. -/
def FileEntry.ofValue? (v : ν) : Option FileEntry := do
  let fields ← record? false ["filename", "digest"] v
  let filename ← optional? text? fields "filename"
  let digest ← optional? Digest.ofValue? fields "digest"
  some { filename, digest }

/-- The written form of an ecosystem. -/
def Ecosystem.toJson (e : Ecosystem) : Json := .text e.name

/-- The ecosystem that a value describes. -/
def Ecosystem.ofValue? (v : ν) : Option Ecosystem := (choice? v).bind Ecosystem.ofName?

/-- The word for coordinates of an ecosystem. -/
def Coordinate.kindName : Ecosystem → String
  | .maven => "maven"
  | .npm => "java-script"
  | .p2 => "bundle"
  | .nuget => "dot-net"
  | .generic => "generic"

/-- The names of the fields of coordinates. -/
def Coordinate.fieldNames : Ecosystem → List String
  | .maven => ["group-id", "artifact-id", "version"]
  | .npm => ["artifact-id", "name", "version"]
  | .p2 => ["symbolic-name", "bundle-version"]
  | .nuget => ["package-id", "version"]
  | .generic => ["name", "version"]

/-- The written form of a coordinate. -/
def Coordinate.toJson (c : Coordinate) : Json :=
  .record (("type", .text (Coordinate.kindName c.ecosystem))
    :: (Coordinate.fieldNames c.ecosystem).zip (c.fields.map .text))

/-- The coordinate that a value describes. -/
def Coordinate.ofJson? (v : Json) : Option Coordinate := do
  let (kind, content) ← v.tagged?
  let e ← Ecosystem.all.find? fun e => Coordinate.kindName e == kind
  let names := Coordinate.fieldNames e
  let fields ← record? false names content
  (names.mapM (required? text? fields)).map (Coordinate.ofFields e)

/-- The written form of an identifier. -/
def Identifier.toJson : Identifier → Json
  | .coordinate c => .record [("coordinate", c.toJson)]
  | .file e => .record [("filename", e.toJson)]

/-- The identifier that a value describes. -/
def Identifier.ofJson? (v : Json) : Option Identifier := do
  let (kind, content) ← v.variant?
  if kind == "coordinate" then (Coordinate.ofJson? content).map .coordinate
  else if kind == "filename" then (FileEntry.ofValue? content).map .file
  else none

/-- The written form of a selector. -/
def Selector.toJson (s : Selector) : Json := .list (s.criteria.map Identifier.toJson)

/-- The selector that a value describes. -/
def Selector.ofJson? (v : Json) : Option Selector :=
  (listOf? Identifier.ofJson? v).map Selector.ofList

-- ================================================================ facts

/-- The written form of a status. -/
def IssueStatus.toJson (s : IssueStatus) : Json := .text s.name

/-- The status that a value describes. -/
def IssueStatus.ofValue? (v : ν) : Option IssueStatus := (choice? v).bind IssueStatus.ofName?

/-- The written form of an issue. -/
def Issue.toJson (i : Issue) : Json :=
  .record ([("reference", .text i.reference), ("status", i.status.toJson),
    ("severity", Json.ofFloat i.severity)] ++ Json.field? "url" (i.url.map .text))

/-- The parts of an issue. -/
def Issue.shape : Shape := .plain ["reference", "status", "severity", "url"]

/-- The issue that a value describes. -/
def Issue.ofValue? (v : ν) : Option Issue := do
  let fields ← record? false Issue.shape.names v
  let reference ← required? text? fields "reference"
  let status ← required? IssueStatus.ofValue? fields "status"
  let severity ← required? number? fields "severity"
  let url ← optional? text? fields "url"
  some { reference, status, severity, url }

/-- The written form of a place under version control. -/
def Vcs.toJson (v : Vcs) : Json :=
  .record [("kind", .text v.kind), ("url", .text v.url), ("revision", .text v.revision)]

/-- The place under version control that a value describes. -/
def Vcs.ofValue? (v : ν) : Option Vcs := do
  let fields ← record? false ["kind", "url", "revision"] v
  let kind ← required? text? fields "kind"
  let url ← required? text? fields "url"
  let revision ← required? text? fields "revision"
  some { kind, url, revision }

/-- The name of a match state. -/
def MatchState.name : MatchState → String
  | .exact => "EXACT"
  | .similar => "SIMILAR"
  | .unknown => "UNKNOWN"

/-- The match state that a value describes. -/
def MatchState.ofValue? (v : ν) : Option MatchState :=
  (choice? v).bind fun name => [exact, similar, unknown].find? fun s => s.name == name

/-- The name of a change status. -/
def ChangeStatus.name : ChangeStatus → String
  | .asIs => "AS_IS"
  | .changed => "CHANGED"

/-- The change status that a value describes. -/
def ChangeStatus.ofValue? (v : ν) : Option ChangeStatus :=
  (choice? v).bind fun name => [asIs, changed].find? fun s => s.name == name

/-- The written form of a kind. -/
def Kind.toJson : Kind → Json
  | .custom name => .record [("custom", .text name)]
  | k => .text k.formName

/-- The kind that a value describes. -/
def Kind.ofJson? (v : Json) : Option Kind :=
  match (choice? v).bind fun name => Kind.fixed.find? fun k => k.formName == name with
  | some k => some k
  | none => match v.variant? with
    | some ("custom", name) => (Json.text? name).map .custom
    | _ => none

/-- The written form of a fact: its kind with the content. All coordinates
go under one name. -/
def Fact.toJson (f : Fact) : Json :=
  let content : Json := match f with
    | .coordinates c => c.toJson
    | .filename e => e.toJson
    | .license _ e => e.toJson
    | .note _ s => .text s
    | .issues found => .list (found.map Issue.toJson)
    | .vcs v => v.toJson
    | .path _ p => .text p.text
    | .matchState s => .text s.name
    | .changeStatus s => .text s.name
    | .custom name v => .record [("name", .text name), ("value", v)]
  let name := match f with
    | .coordinates _ => "coordinates"
    | f => f.kind.formName
  .record [(name, content)]

/-- The name and the content of a fact of a kind of its own. Here a list
does not stand for a record. -/
def Fact.customOf? : Json → Option (String × Json)
  | .record content => do
    let fields ← record? false ["name", "value"] (Json.record content)
    let name ← required? text? fields "name"
    let value ← fields.lookup "value"
    some (name, value)
  | _ => none

/-- The fact of a kind whose content a value describes. -/
def Fact.ofContent? (v : Json) : Kind → Option Fact
  | .coordinates _ => (Coordinate.ofJson? v).map .coordinates
  | .filename => (FileEntry.ofValue? v).map .filename
  | .license role => (Expression.ofJson? v).map (.license role)
  | .note role => v.text?.map (.note role)
  | .issues => (listOf? Issue.ofValue? v).map .issues
  | .vcs => (Vcs.ofValue? v).map .vcs
  | .path role => v.text?.map fun s => .path role ⟨s⟩
  | .matchState => (MatchState.ofValue? v).map .matchState
  | .changeStatus => (ChangeStatus.ofValue? v).map .changeStatus
  | .custom _ => do
    let (name, value) ← Fact.customOf? v
    some (.custom name value.sorted)

/-- The fact that a value describes. -/
def Fact.ofJson? (v : Json) : Option Fact := do
  let (name, content) ← v.variant?
  if name == "coordinates" then Fact.ofContent? content (.coordinates .generic)
  else if name == "custom" then Fact.ofContent? content (.custom "")
  else
    let kind ← Kind.fixed.find? fun k => k.formName == name && !k.hasCapability .coordinates
    Fact.ofContent? content kind

-- ============================================================ artifacts

/-- The written form of an artifact. -/
def Artifact.toJson (a : Artifact) : Json :=
  .record [("facts", .list (a.allFacts.map Fact.toJson)), ("proprietary", .flag a.proprietary),
    ("ignore-for-download", .flag a.ignoreForDownload),
    ("modified-by-configuration", .flag a.modifiedByConfiguration),
    ("analysis-source", .text a.analysisSource)]

/-- The artifact that a value describes. -/
def Artifact.ofJson? (v : Json) : Option Artifact := do
  let fields ← record? false
    ["facts", "proprietary", "ignore-for-download", "modified-by-configuration",
      "analysis-source"] v
  let facts ← withDefault? [] (listOf? Fact.ofJson?) fields "facts"
  let proprietary ← withDefault? false flag? fields "proprietary"
  let ignoreForDownload ← withDefault? false flag? fields "ignore-for-download"
  let modifiedByConfiguration ← withDefault? false flag? fields "modified-by-configuration"
  let source ← withDefault? Artifact.unknownSource text? fields "analysis-source"
  some { (Artifact.ofSource source).addAll facts with
    proprietary, ignoreForDownload, modifiedByConfiguration }

end Clearance
