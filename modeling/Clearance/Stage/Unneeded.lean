/-
Looking for entries of a policy that are not needed: selectors that pick
none of the artifacts.
-/
import Clearance.Policy.Basic
import Clearance.Policy.Report

namespace Clearance.Stage

/-- The message about a selector that a section does not need. -/
def unneeded (place : String) (s : Selector) : Message :=
  ⟨.selector s, .unnecessaryConfig,
    s.render ++ ": This artifact is not needed in the \"" ++ place ++ "\" section of the "
      ++ "configuration file as it does not exist in the artifacts list"⟩

/-- The sections of a policy that are looked at, and their selectors. -/
def sections (p : Policy) : List (String × List Selector) :=
  [("remove Artifact", p.removed), ("override section", p.overrides.keys),
    ("source validation (incomplete sources)", p.validIncomplete),
    ("source validation (missing sources)", p.validMissing),
    ("set final license", p.finalLicenses.keys), ("source Resolving", p.ignored),
    ("add security issues", p.issues.keys)]

/-- The messages about selectors that pick none of the artifacts. -/
def unneededMessages (p : Policy) (artifacts : List Artifact) : List Message :=
  (sections p).flatMap fun (place, selectors) =>
    (selectors.filter fun s => !artifacts.any s.selects).map (unneeded place)

end Clearance.Stage
