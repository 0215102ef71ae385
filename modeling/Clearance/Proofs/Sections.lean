/-
What merging makes of each section, conflict or not. `Merges` is the
contract of `Policy.merge`, one field for each section and one for the
messages. It speaks about the policies that are merged and not about how
that is done, but for `disputed`, which lists the entries that meet a
different value in the order in which they are met: the first value of
their selector under `.keepFirst` (`standing_eq_findSome?`), the running
one under `.takeLast`.

The three tables are where the settlements show:

- One dispute among the overrides leaves none of them, those of later
  policies included, and is told alone.
- Of final licenses every selector keeps the first, and every later one
  that differs from it is told.
- Of issues every selector has the last, or earlier ones equal to them,
  and every change is told.
-/
import Clearance.Proofs.Suppression

namespace Clearance.Policy

/-- What merging some policies comes to, section by section. -/
structure Merges (ps : List Policy) (merged : Policy) (messages : List Message) : Prop where
  ignored : ∀ s, s ∈ merged.ignored ↔ ∃ p ∈ ps, s ∈ p.ignored
  removed : ∀ s, s ∈ merged.removed ↔ ∃ p ∈ ps, s ∈ p.removed
  validMissing : ∀ s, s ∈ merged.validMissing ↔ ∃ p ∈ ps, s ∈ p.validMissing
  validIncomplete : ∀ s, s ∈ merged.validIncomplete ↔ ∃ p ∈ ps, s ∈ p.validIncomplete
  added : merged.added = (ps.flatMap Policy.added).eraseDups
  /-- Without a dispute all overrides are there, each with its one value. -/
  overrides_united : disputed .keepFirst [] (ps.map overrides) = [] →
    ∀ s, merged.overrides.get? s = ps.findSome? fun p => p.overrides.get? s
  /-- With a dispute none of them is. -/
  overrides_abandoned : disputed .keepFirst [] (ps.map overrides) ≠ [] →
    merged.overrides = ∅
  finalLicenses : ∀ s, merged.finalLicenses.get? s = ps.findSome? fun p => p.finalLicenses.get? s
  issues : ∀ s, Option.Rel Same (merged.issues.get? s)
    (ps.reverse.findSome? fun p => p.issues.get? s)
  /-- A suppression ends on the earliest date that any policy has. -/
  suppressed : ∀ r s d, merged.until? r s = some d ↔
    (∃ p ∈ ps, p.until? r s = some d) ∧ ∀ p ∈ ps, ∀ d', p.until? r s = some d' → d ≤ d'
  failOnIncomplete : some merged.failOnIncomplete = ps.head?.map Policy.failOnIncomplete
  failOnMissing : some merged.failOnMissing = ps.head?.map Policy.failOnMissing
  /-- Of the overrides the first dispute is told, of other entries each, and of
  either flag one message if a later policy has another value. -/
  messages :
    messages =
      ((disputed .keepFirst [] (ps.map overrides)).take 1).map (fun e => {
          subject := .selector e.1
          category := .conflictingConfigurations
          text := "Conflicting configurations in the "
            ++ "override section at artifact: the override values are not equal."
            ++ " (artifact selector was=" ++ e.1.render ++ ")" })
        ++ (disputed .keepFirst [] (ps.map Policy.finalLicenses)).map (fun e => {
          subject := .selector e.1
          category := .conflictingConfigurations
          text := "Conflicting configurations in the "
            ++ "\"set final license\" section, the declared licenses are not the same."
            ++ " (artifact selector was=" ++ e.1.render ++ ")" })
        ++ (disputed .takeLast [] (ps.map Policy.issues)).map (fun e => {
          subject := .selector e.1
          category := .conflictingConfigurations
          text := "Conflicting configurations in the "
            ++ "security issues section, the issues are not the same, the last configuration wins."
            ++ " (artifact selector was=" ++ e.1.render ++ ")" })
        ++ (if ps.tail.all (fun p => p.failOnIncomplete == merged.failOnIncomplete) then [] else [{
          subject := .everything
          category := .conflictingConfigurations
          text := "Conflicting configurations for the attribute \""
            ++ "failOnIncompleteSources" ++ "\"." }])
        ++ (if ps.tail.all (fun p => p.failOnMissing == merged.failOnMissing) then [] else [{
          subject := .everything
          category := .conflictingConfigurations
          text := "Conflicting configurations for the attribute \""
            ++ "failOnMissingSources" ++ "\"." }])

-- ========================================================= the sections

/-- A merged set has the members of all sets. -/
theorem mem_mergeSets {part : Policy → List Selector} {ps : List Policy} {s : Selector} :
    s ∈ mergeSets (ps.map part) ↔ ∃ p ∈ ps, s ∈ part p := by
  rw [mergeSets, mem_distinct, List.mem_flatten]
  simp

theorem mergeTables_abandon_fst {ν : Type} [BEq ν] (tables : List (Table Selector ν)) :
    (mergeTables .abandon tables).1 =
      if disputed .keepFirst [] tables = [] then (mergeTables .keepFirst tables).1 else ∅ := by
  rw [mergeTables_abandon]
  cases disputed .keepFirst [] tables with
  | nil => rfl
  | cons e rest => rfl

theorem mergeTables_abandon_snd {ν : Type} [BEq ν] (tables : List (Table Selector ν)) :
    (mergeTables .abandon tables).2 =
      ((disputed .keepFirst [] tables).take 1).map Prod.fst := by
  rw [mergeTables_abandon]
  cases disputed .keepFirst [] tables with
  | nil => rfl
  | cons e rest => rfl

/-- Merging that keeps the first value, read off the policies. -/
theorem get?_mergeTables_keepFirst {ν : Type} [BEq ν] (part : Policy → Table Selector ν)
    (ps : List Policy) (s : Selector) :
    (mergeTables .keepFirst (ps.map part)).1.get? s
      = ps.findSome? fun p => (part p).get? s := by
  rw [get?_mergeTables (by decide), standing_eq_findSome? (by decide), List.findSome?_map]
  rfl

/-- Merging does to every section what its settlement says, whatever the
policies, and tells what it settles. -/
theorem merges_merge (p : Policy) (ps : List Policy) :
    Merges (p :: ps) (merge (p :: ps)).1 (merge (p :: ps)).2 where
  ignored s := by rw [merge_ignored, mem_mergeSets]
  removed s := by rw [merge_removed, mem_mergeSets]
  validMissing s := by rw [merge_validMissing, mem_mergeSets]
  validIncomplete s := by rw [merge_validIncomplete, mem_mergeSets]
  added := by rw [merge_added, distinct_eq_eraseDups]
  overrides_united h s := by
    rw [merge_overrides, mergeTables_abandon_fst, if_pos h, get?_mergeTables_keepFirst]
  overrides_abandoned h := by rw [merge_overrides, mergeTables_abandon_fst, if_neg h]
  finalLicenses s := by rw [merge_finalLicenses, get?_mergeTables_keepFirst]
  issues s := by
    have hlast := standing_takeLast s ((p :: ps).map Policy.issues)
    rw [← List.map_reverse, List.findSome?_map] at hlast
    rw [merge_issues, get?_mergeTables (by decide)]
    exact hlast
  suppressed r s d := until?_merge (p :: ps) r s d
  failOnIncomplete := rfl
  failOnMissing := rfl
  messages := by
    rw [merge_messages, mergeTables_abandon_snd, conflicts_mergeTables (by decide),
      conflicts_mergeTables (by decide)]
    simp only [List.map_map, flagConflicts, List.all_map, List.tail_cons]
    rfl

end Clearance.Policy
