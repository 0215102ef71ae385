/-
Adding the artifacts of a policy. An artifact is not added if one with the
same identity is there already.
-/
import Clearance.Policy.Basic
import Clearance.Policy.Report

namespace Clearance.Stage

/-- Whether one of the artifacts has the identity of another one. -/
def isPresent (artifacts : List Artifact) (a : Artifact) : Bool :=
  artifacts.any fun b => b.identity == a.identity

/-- The message about an artifact that is there already. -/
def alreadyPresent (a : Artifact) : Message :=
  .aboutArtifact a .duplicateArtifact
    "Artifact is already in the artifacts list and was not added again."

/-- The message about an artifact that was added. -/
def wasAdded (a : Artifact) : Message :=
  .aboutArtifact a .addArtifact "Artifact was added to artifacts list."

/-- Adds artifacts one after another. -/
def addArtifacts : List Artifact → List Artifact → List Artifact × List Message
  | artifacts, [] => (artifacts, [])
  | artifacts, a :: rest =>
    if isPresent artifacts a then
      let (artifacts, messages) := addArtifacts artifacts rest
      (artifacts, alreadyPresent a :: messages)
    else
      let added := { a with modifiedByConfiguration := true }
      let (artifacts, messages) := addArtifacts (artifacts ++ [added]) rest
      (artifacts, wasAdded a :: messages)

end Clearance.Stage
