/-
Merging policies. Sets are united, and of suppression dates the earliest
counts. Where policies say different things about one selector, a
`Settlement` decides: conflicting overrides are abandoned altogether, of
final licenses the first one stays, and of issues the last ones win. The
flags of the first policy count.

Every conflict becomes a message; merging itself never fails. Between
overrides, only the first conflict is told.
-/
import Clearance.Policy.Basic
import Clearance.Policy.Report

namespace Clearance

/-- What becomes of two different values for one selector. -/
inductive Settlement where
  /-- All values are given up, and no further ones are looked at. -/
  | abandon
  | keepFirst
  | takeLast
  deriving DecidableEq, Repr

namespace Policy

/-- Writes entries into a table, and lists the selectors of conflicts. -/
def settle {ν : Type} [BEq ν] (how : Settlement) (t : Table Selector ν) :
    List (Selector × ν) → Table Selector ν × List Selector
  | [] => (t, [])
  | (s, v) :: rest =>
    match t.get? s with
    | none => settle how (t.insert s v) rest
    | some old =>
      if old == v then settle how t rest
      else match how with
        | .abandon => (∅, [s])
        | .keepFirst =>
          let (t, conflicts) := settle how t rest
          (t, s :: conflicts)
        | .takeLast =>
          let (t, conflicts) := settle how (t.insert s v) rest
          (t, s :: conflicts)

/-- One table from those of several policies. -/
def mergeTables {ν : Type} [BEq ν] (how : Settlement) (tables : List (Table Selector ν)) :
    Table Selector ν × List Selector := settle how ∅ (tables.flatMap Table.entries)

/-- One set from those of several policies. -/
def mergeSets (sets : List (List Selector)) : List Selector := distinct sets.flatten

/-- All suppressions in the order in which they are written. -/
def suppressions (p : Policy) : List (String × Selector × Date) :=
  p.suppressed.entries.flatMap fun (reference, dates) =>
    dates.entries.map fun (s, date) => (reference, s, date)

/-- The suppressions of several policies. -/
def mergeSuppressions (ps : List Policy) : Table String Suppressions :=
  (ps.flatMap suppressions).foldl (fun t (reference, s, date) => suppress t reference s date) ∅

-- ============================================================= messages

/-- The message about two values for one selector. -/
def conflict (description : String) (s : Selector) : Message :=
  ⟨.selector s, .conflictingConfigurations,
    "Conflicting configurations in the " ++ description ++ " (artifact selector was="
      ++ s.render ++ ")"⟩

/-- How conflicting overrides are told. -/
def overrideConflict : String :=
  "override section at artifact: the override values are not equal."

/-- How conflicting final licenses are told. -/
def licenseConflict : String :=
  "\"set final license\" section, the declared licenses are not the same."

/-- How conflicting issues are told. -/
def issuesConflict : String :=
  "security issues section, the issues are not the same, the last configuration wins."

/-- The message about a flag, if the policies do not agree on it. -/
def flagConflicts (name : String) (first : Bool) (values : List Bool) : List Message :=
  if values.all (· == first) then []
  else [⟨.everything, .conflictingConfigurations,
    "Conflicting configurations for the attribute \"" ++ name ++ "\"."⟩]

-- ============================================================== merging

/-- One policy from several, and the messages about conflicts. -/
def merge : List Policy → Policy × List Message
  | [] => (empty, [])
  | first :: rest =>
    let ps := first :: rest
    let (overrides, overrideConflicts) := mergeTables .abandon (ps.map overrides)
    let (finalLicenses, licenseConflicts) := mergeTables .keepFirst (ps.map finalLicenses)
    let (issues, issuesConflicts) := mergeTables .takeLast (ps.map issues)
    let merged : Policy :=
      { ignored := mergeSets (ps.map ignored)
        overrides
        added := distinct (ps.flatMap added)
        removed := mergeSets (ps.map removed)
        validMissing := mergeSets (ps.map validMissing)
        validIncomplete := mergeSets (ps.map validIncomplete)
        finalLicenses
        issues
        suppressed := mergeSuppressions ps
        failOnIncomplete := first.failOnIncomplete
        failOnMissing := first.failOnMissing }
    let messages :=
      overrideConflicts.map (conflict overrideConflict)
        ++ licenseConflicts.map (conflict licenseConflict)
        ++ issuesConflicts.map (conflict issuesConflict)
        ++ flagConflicts "failOnIncompleteSources" first.failOnIncomplete
          (rest.map failOnIncomplete)
        ++ flagConflicts "failOnMissingSources" first.failOnMissing (rest.map failOnMissing)
    (merged, messages)

/-- Merges policies and adds the messages to a report. -/
def mergeInto (report : Report) (ps : List Policy) : Policy × Report :=
  let (merged, messages) := merge ps
  (merged, report ++ messages)

/-- The merged policy, which must leave the report without any message. -/
def mergeAndCheck (report : Report) (ps : List Policy) : Except Error Policy × Report :=
  let (merged, report) := mergeInto report ps
  (report.check.map fun _ => merged, report)

end Policy

end Clearance
