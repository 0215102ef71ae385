/-
Selectors pick artifacts by their identifiers. Each criterion of a
selector is a pattern, and an artifact is picked when every criterion
matches one of its identifiers; a selector without criteria picks nothing.

The criteria are kept in order and without repetitions, so selectors with
the same criteria are equal.
-/
import Clearance.Artifact.Basic

namespace Clearance

/-- A selector of artifacts. -/
structure Selector where
  criteria : List Identifier
  deriving DecidableEq, Repr

namespace Selector

/-- The selector with some criteria. -/
def ofList (ids : List Identifier) : Selector := ⟨Identifier.canonical ids⟩

/-- The selector of a file name pattern. -/
def ofFilename (pattern : String) : Selector := ofList [.file (.named pattern)]

/-- The selector of all identifiers of an artifact. -/
def ofArtifact (a : Artifact) : Selector := ofList a.identifiers

/-- The selector with one more criterion. -/
def add (s : Selector) (id : Identifier) : Selector := ofList (s.criteria ++ [id])

/-- Whether a selector has no criteria. -/
def isEmpty (s : Selector) : Bool := s.criteria.isEmpty

/-- Whether a selector picks an artifact when texts are matched by
`accepts`. -/
def selectsBy (accepts : String → String → Bool) (s : Selector) (a : Artifact) : Bool :=
  !s.isEmpty && s.criteria.all fun needle => a.identifiers.any (needle.matchesBy accepts)

/-- Whether a selector picks an artifact. -/
def selects (s : Selector) (a : Artifact) : Bool := s.selectsBy wildcardMatches a

/-- The text of a selector. -/
def render (s : Selector) : String := Identifier.renderAll s.criteria

end Selector

end Clearance
