/-
Artifacts: the third-party components that a policy is about. An artifact
holds facts by kind, some flags, and the name of the analysis that found
it. Empty facts are stored and never answered.
-/
import Clearance.Artifact.Fact
import Clearance.Collection.Distinct
import Clearance.Collection.Table

namespace Clearance

/-- A third-party component. -/
structure Artifact where
  facts : Table Kind (List Fact)
  /-- Whether it is not under an open license. -/
  proprietary : Bool
  /-- Whether its sources need not be fetched. -/
  ignoreForDownload : Bool
  /-- Whether the policy has changed it. -/
  modifiedByConfiguration : Bool
  analysisSource : String

namespace Artifact

/-- The analysis of an artifact that nobody named. -/
def unknownSource : String := "UNKNOWN"

/-- The artifact of an analysis that nothing is known about. -/
def ofSource (source : String) : Artifact := ⟨∅, false, false, false, source⟩

/-- The artifact that nothing is known about. -/
def empty : Artifact := ofSource unknownSource

instance : Inhabited Artifact := ⟨empty⟩

/-- Artifacts are equal when they have equal facts of the same kinds, in
whatever order the kinds came, and equal flags and sources. -/
instance : BEq Artifact := ⟨fun a b =>
  a.facts.same b.facts && a.proprietary == b.proprietary
    && a.ignoreForDownload == b.ignoreForDownload
    && a.modifiedByConfiguration == b.modifiedByConfiguration
    && a.analysisSource == b.analysisSource⟩

-- ============================================================== changing

/-- The facts of a kind that are stored. -/
def stored (a : Artifact) (k : Kind) : List Fact := (a.facts.get? k).getD []

/-- The artifact with one more fact. It takes the place of the fact of its
kind, or joins those of a kind that accumulates unless it is there
already. -/
def add (a : Artifact) (f : Fact) : Artifact :=
  let facts := if f.kind.accumulates then addNew (a.stored f.kind) f else [f]
  { a with facts := a.facts.insert f.kind facts }

/-- The artifact with more facts, added one after another. -/
def addAll (a : Artifact) (fs : List Fact) : Artifact := fs.foldl add a

/-- The artifact without the facts of a kind. -/
def remove (a : Artifact) (k : Kind) : Artifact := { a with facts := a.facts.erase k }

/-- The facts that say something. -/
def telling (fs : List Fact) : List Fact := fs.filter fun f => !f.isEmpty

/-- The facts of a table with those of one kind replaced, if there are any
to replace them. -/
def overrideKind (facts : Table Kind (List Fact)) (entry : Kind × List Fact) :
    Table Kind (List Fact) :=
  let fs := telling entry.2
  if fs.isEmpty then facts else facts.insert entry.1 fs

/-- The artifact with the facts of another one. Facts of a kind replace all
facts of that kind; flags that are set there are set here. -/
def overrideWith (a source : Artifact) : Artifact :=
  { a with
    facts := source.facts.entries.foldl overrideKind a.facts
    proprietary := a.proprietary || source.proprietary
    ignoreForDownload := a.ignoreForDownload || source.ignoreForDownload }

-- ================================================================ asking

/-- The facts of a kind. -/
def askList (a : Artifact) (k : Kind) : List Fact := telling (a.stored k)

/-- The fact of a kind; if there are several, the first. -/
def ask? (a : Artifact) (k : Kind) : Option Fact := (a.askList k).head?

/-- The facts of all kinds with a capability. -/
def askAll (a : Artifact) (c : Capability) : List Fact :=
  telling ((a.facts.entries.filter fun entry => entry.1.hasCapability c).flatMap Prod.snd)

/-- Whether there is a fact of a kind. -/
def has (a : Artifact) (k : Kind) : Bool := (a.ask? k).isSome

/-- All stored facts, by kind. -/
def allFacts (a : Artifact) : List Fact := a.facts.values.flatten

/-- The coordinates of an artifact. -/
def coordinates (a : Artifact) : List Coordinate :=
  (a.askAll .coordinates).filterMap Fact.coordinate?

/-- The files of an artifact. -/
def filenames (a : Artifact) : List FileEntry :=
  (a.askList .filename).filterMap Fact.filename?

/-- The longer of two names in bytes, the second one if they are equally
long. -/
def longer (best : Option String) (name : String) : Option String :=
  match best with
  | some b => if name.utf8ByteSize < b.utf8ByteSize then some b else some name
  | none => some name

/-- The longest file name. -/
def bestFilename? (a : Artifact) : Option String :=
  (a.filenames.filterMap FileEntry.filename).foldl longer none

-- ============================================================== identity

/-- What an artifact is known by. -/
def identifiers (a : Artifact) : List Identifier :=
  (a.askAll .identifier).filterMap Fact.identifier?

/-- The identity of an artifact: the set of its identifiers. -/
def identity (a : Artifact) : List Identifier := Identifier.canonical a.identifiers

/-- The text of the identity. -/
def identityText (a : Artifact) : String := Identifier.renderAll a.identity

/-- Whether an identifier of one artifact matches one of the other to
`accepts`, in either direction. -/
def mayDuplicateBy (accepts : String → String → Bool) (a b : Artifact) : Bool :=
  a.identifiers.any fun x => b.identifiers.any fun y =>
    x.matchesBy accepts y || y.matchesBy accepts x

/-- Whether an identifier of one artifact matches one of the other, in
either direction. -/
def mayDuplicate (a b : Artifact) : Bool := a.mayDuplicateBy wildcardMatches b

/-- The text of an artifact. -/
def render (a : Artifact) : String :=
  let shown := if a.identifiers.isEmpty then ["<unidentified>", a.analysisSource]
    else a.identifiers.map Identifier.render
  "Artifact(" ++ ", ".intercalate shown ++ ")"

end Artifact

end Clearance
