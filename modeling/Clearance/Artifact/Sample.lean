/-
Artifacts to try things out with.
-/
import Clearance.Artifact.Basic

namespace Clearance.Artifact.Sample

/-- The analysis that is said to have found the samples. -/
def source : String := "test-analyzer"

/-- An artifact with Maven coordinates and the file that goes with them. -/
def maven (group artifact version : String) : Artifact :=
  (Artifact.ofSource source).addAll
    [.coordinates (Coordinate.maven group artifact version).trimmed,
      .filename (.named (artifact ++ "-" ++ version ++ ".jar"))]

/-- An artifact with npm coordinates and the file that goes with them. -/
def npm (name version : String) : Artifact :=
  (Artifact.ofSource source).addAll
    [.coordinates (Coordinate.javaScript name name version).trimmed,
      .filename (.named (name ++ "-" ++ version ++ ".tgz"))]

/-- An artifact that is a file. -/
def file (name : String) : Artifact := (Artifact.ofSource source).add (.filename (.named name))

/-- The artifact with a declared license. -/
def withLicense (a : Artifact) (id : String) : Artifact := a.add (.license .declared (.ofId id))

/-- The artifact with sources, named after its longest file name. -/
def withSources (a : Artifact) : Artifact :=
  let name := a.bestFilename?.getD "artifact"
  a.add (.path .sourceFile ⟨"sources/" ++ name ++ "-sources.zip"⟩)

/-- The artifact with one more issue. -/
def withIssue (a : Artifact) (reference : String) (status : IssueStatus) (severity : Float) :
    Artifact :=
  let issues := ((a.ask? .issues).bind Fact.issues?).getD []
  a.add (.issues (issues ++ [⟨reference, status, severity, none⟩]))

end Clearance.Artifact.Sample
