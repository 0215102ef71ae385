/-
Removing artifacts: those that the policy removes, and the proprietary
ones, unless the last override for an artifact says that it is not
proprietary.
-/
import Clearance.Policy.Basic
import Clearance.Policy.Report

namespace Clearance.Stage

/-- Whether an artifact is proprietary according to the last override that
picks it, or else by itself. -/
def effectivelyProprietary (p : Policy) (a : Artifact) : Bool :=
  let picking := p.overrides.entries.filter fun entry => entry.1.selects a
  match picking.getLast? with
  | some (_, override) => override.proprietary
  | none => a.proprietary

/-- The message about an artifact that is removed, if it is. -/
def removal? (p : Policy) (a : Artifact) : Option Message :=
  if p.removed.any fun s => s.selects a then
    some (.aboutArtifact a .removeArtifact
      "Artifact is removed from artifacts list for processing.")
  else if a.proprietary && effectivelyProprietary p a then
    some (.aboutArtifact a .artifactIsProprietary
      ("Artifact is removed from the artifacts list for processing, since it was classified "
        ++ "as proprietary."))
  else none

/-- The artifacts that stay. -/
def kept (p : Policy) (artifacts : List Artifact) : List Artifact :=
  artifacts.filter fun a => (removal? p a).isNone

/-- The messages about the artifacts that do not stay. -/
def removalMessages (p : Policy) (artifacts : List Artifact) : List Message :=
  artifacts.filterMap (removal? p)

end Clearance.Stage
