/-
Policies: which artifacts to remove, to add and to override, whose sources
may be missing or incomplete, which licenses are final, and which security
issues are known or suppressed.

A policy is built from entries, which are written one after another. Where
an entry comes twice for the same selector, the last one counts, but of
two dates of a suppression the earlier one does. At the end every selector
whose artifacts are ignored for source resolving is also allowed to miss
sources and to have incomplete ones.
-/
import Clearance.Artifact.Selector
import Clearance.Calendar.Date

namespace Clearance

/-- Until when an issue is suppressed, by selector. -/
abbrev Suppressions := Table Selector Date

/-- A policy. -/
structure Policy where
  ignored : List Selector
  overrides : Table Selector Artifact
  added : List Artifact
  removed : List Selector
  validMissing : List Selector
  validIncomplete : List Selector
  finalLicenses : Table Selector Expression
  issues : Table Selector (List Issue)
  suppressed : Table String Suppressions
  failOnIncomplete : Bool
  failOnMissing : Bool

namespace Policy

/-- The policy that says nothing. -/
def empty : Policy := ⟨[], ∅, [], [], [], [], ∅, ∅, ∅, false, false⟩

instance : Inhabited Policy := ⟨empty⟩

/-- Policies are equal when their sets and tables have the same members, in
whatever order, their added artifacts are equal in order, and so are their
flags. -/
instance : BEq Policy := ⟨fun p q =>
  sameMembers p.ignored q.ignored && p.overrides == q.overrides && p.added == q.added
    && sameMembers p.removed q.removed && sameMembers p.validMissing q.validMissing
    && sameMembers p.validIncomplete q.validIncomplete
    && p.finalLicenses == q.finalLicenses && p.issues == q.issues
    && p.suppressed == q.suppressed && p.failOnIncomplete == q.failOnIncomplete
    && p.failOnMissing == q.failOnMissing⟩

/-- Whether a policy says nothing. -/
def isEmpty (p : Policy) : Bool := p == empty

-- ============================================================== entries

/-- The suppressions with one more date for an issue and a selector; an
earlier date stays. -/
def suppress (t : Table String Suppressions) (reference : String) (s : Selector)
    (date : Date) : Table String Suppressions :=
  let dates := (t.get? reference).getD ∅
  let earliest := match dates.get? s with
    | some old => Date.earlier old date
    | none => date
  t.insert reference (dates.insert s earliest)

/-- A single thing that a policy says. -/
inductive Entry where
  | ignore (selector : Selector)
  | override (selector : Selector) (artifact : Artifact)
  | add (artifact : Artifact)
  | remove (selector : Selector)
  | validMissing (selector : Selector)
  | validIncomplete (selector : Selector)
  | license (selector : Selector) (expression : Expression)
  | issues (selector : Selector) (found : List Issue)
  | suppress (reference : String) (selector : Selector) (date : Date)
  | failOnIncomplete (value : Bool)
  | failOnMissing (value : Bool)

/-- The policy with one more entry. -/
def write (p : Policy) : Entry → Policy
  | .ignore s => { p with ignored := addNew p.ignored s }
  | .override s a => { p with overrides := p.overrides.insert s a }
  | .add a => { p with added := addNew p.added a }
  | .remove s => { p with removed := addNew p.removed s }
  | .validMissing s => { p with validMissing := addNew p.validMissing s }
  | .validIncomplete s => { p with validIncomplete := addNew p.validIncomplete s }
  | .license s e => { p with finalLicenses := p.finalLicenses.insert s e }
  | .issues s found => { p with issues := p.issues.insert s found }
  | .suppress reference s date => { p with suppressed := suppress p.suppressed reference s date }
  | .failOnIncomplete value => { p with failOnIncomplete := value }
  | .failOnMissing value => { p with failOnMissing := value }

/-- The policy in which ignored artifacts need no sources. -/
def sealed (p : Policy) : Policy :=
  { p with
    validMissing := addAllNew p.validMissing p.ignored
    validIncomplete := addAllNew p.validIncomplete p.ignored }

/-- The policy of a list of entries. -/
def ofEntries (entries : List Entry) : Policy := (entries.foldl write empty).sealed

end Policy

end Clearance
