/-
The dominant fact among those of one capability: the first of the
preferred kinds that the artifact has a fact of, otherwise any fact with
the capability.
-/
import Clearance.Artifact.Basic

namespace Clearance.Artifact

/-- The dominant fact with a capability. -/
def dominant? (a : Artifact) (preferred : List Kind) (c : Capability) : Option Fact :=
  (preferred.findSome? a.ask?).orElse fun _ => (a.askAll c).head?

/-- The version of coordinates that are made from a file name. -/
def fallbackVersion : String := "-"

/-- Coordinates made from the longest file name. -/
def filenameCoordinates? (a : Artifact) : Option Coordinate :=
  a.bestFilename?.map fun name => (Coordinate.generic name fallbackVersion).trimmed

/-- The dominant coordinates, and whether they had to be made from a file
name. -/
def dominantCoordinates? (a : Artifact) (preferred : List Ecosystem) :
    Option (Coordinate × Bool) :=
  match a.dominant? (preferred.map Kind.coordinates) .coordinates with
  | some f => f.coordinate?.map fun c => (c, false)
  | none => a.filenameCoordinates?.map fun c => (c, true)

end Clearance.Artifact
