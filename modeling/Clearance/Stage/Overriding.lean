/-
Overriding: what a policy changes about an artifact. First the artifact is
marked if its sources are not needed, then the overrides that pick it
replace its facts, and then the final licenses that pick it are set. Each
override and each license looks at the artifact as the ones before it left
it.
-/
import Clearance.Policy.Basic
import Clearance.Policy.Report

namespace Clearance.Stage

/-- Marks an artifact whose sources are not needed. -/
def markIgnored (p : Policy) (a : Artifact) : Artifact × List Message :=
  if p.ignored.any fun s => s.selects a then
    ({ a with ignoreForDownload := true },
      [.aboutArtifact a .ignoreForArtifactResolving "The Artifact will not be downloaded."])
  else (a, [])

/-- Applies overrides one after another. -/
def applyOverrides : Artifact → List (Selector × Artifact) → Artifact × List Message
  | a, [] => (a, [])
  | a, (s, source) :: rest =>
    if s.selects a then
      let changed := { a.overrideWith source with modifiedByConfiguration := true }
      let (result, messages) := applyOverrides changed rest
      (result, .aboutArtifact changed .overrideArtifactAttributes
        "The artifact attributes were overwritten manually." :: messages)
    else applyOverrides a rest

/-- Sets a final license, if it is meant for the artifact. -/
def setLicense (a : Artifact) (entry : Selector × Expression) : Artifact :=
  if entry.1.selects a then
    { a.add (.license .configured entry.2) with modifiedByConfiguration := true }
  else a

/-- Changes an artifact as the policy says. -/
def overrideArtifact (p : Policy) (a : Artifact) : Artifact × List Message :=
  let (a, ignoring) := markIgnored p a
  let (a, overriding) := applyOverrides a p.overrides.entries
  (p.finalLicenses.entries.foldl setLicense a, ignoring ++ overriding)

end Clearance.Stage
