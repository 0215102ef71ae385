/-
When merging is silent. A policy is merged section by section, and the
equations at the head of this file say how, for any number of policies, so
that nothing below looks into `Policy.merge` again.

Three sections are compared while they are merged, each under a settlement
of its own: overrides are dropped, final licenses keep the first value,
issues take the last one. The settlement decides what becomes of a
conflict, and never whether there is one. So merging tells nothing exactly
if every two policies agree (`merge_silent_iff`), and a report that was
empty makes `mergeAndCheck` a test for that.
-/
import Clearance.Proofs.Settlement

namespace Clearance.Policy

-- ========================================================= the sections

@[simp] theorem merge_ignored (ps : List Policy) :
    (merge ps).1.ignored = mergeSets (ps.map ignored) := by cases ps <;> rfl

@[simp] theorem merge_removed (ps : List Policy) :
    (merge ps).1.removed = mergeSets (ps.map removed) := by cases ps <;> rfl

@[simp] theorem merge_validMissing (ps : List Policy) :
    (merge ps).1.validMissing = mergeSets (ps.map validMissing) := by cases ps <;> rfl

@[simp] theorem merge_validIncomplete (ps : List Policy) :
    (merge ps).1.validIncomplete = mergeSets (ps.map validIncomplete) := by cases ps <;> rfl

@[simp] theorem merge_added (ps : List Policy) :
    (merge ps).1.added = distinct (ps.flatMap added) := by cases ps <;> rfl

@[simp] theorem merge_overrides (ps : List Policy) :
    (merge ps).1.overrides = (mergeTables .abandon (ps.map overrides)).1 := by cases ps <;> rfl

@[simp] theorem merge_finalLicenses (ps : List Policy) :
    (merge ps).1.finalLicenses = (mergeTables .keepFirst (ps.map finalLicenses)).1 := by
  cases ps <;> rfl

@[simp] theorem merge_issues (ps : List Policy) :
    (merge ps).1.issues = (mergeTables .takeLast (ps.map issues)).1 := by cases ps <;> rfl

@[simp] theorem merge_suppressed (ps : List Policy) :
    (merge ps).1.suppressed = mergeSuppressions ps := by cases ps <;> rfl

/-- The messages of merging, section by section. -/
theorem merge_messages (p : Policy) (ps : List Policy) :
    (merge (p :: ps)).2 =
      (mergeTables .abandon ((p :: ps).map overrides)).2.map (conflict overrideConflict)
        ++ (mergeTables .keepFirst ((p :: ps).map finalLicenses)).2.map (conflict licenseConflict)
        ++ (mergeTables .takeLast ((p :: ps).map issues)).2.map (conflict issuesConflict)
        ++ flagConflicts "failOnIncompleteSources" p.failOnIncomplete (ps.map failOnIncomplete)
        ++ flagConflicts "failOnMissingSources" p.failOnMissing (ps.map failOnMissing) := rfl

-- ============================================================ agreement

/-- Two policies agree: their overrides, final licenses and issues under a
common selector are equal, and so are their flags. -/
structure Agrees (p q : Policy) : Prop where
  overrides : p.overrides.Agrees q.overrides
  finalLicenses : p.finalLicenses.Agrees q.finalLicenses
  issues : p.issues.Agrees q.issues
  failOnIncomplete : p.failOnIncomplete = q.failOnIncomplete
  failOnMissing : p.failOnMissing = q.failOnMissing

theorem Agrees.symm {p q : Policy} (h : p.Agrees q) : q.Agrees p :=
  ⟨h.overrides.symm, h.finalLicenses.symm, h.issues.symm, h.failOnIncomplete.symm,
    h.failOnMissing.symm⟩

/-- Policies agree in pairs if each of their sections does. -/
theorem pairwise_agrees_iff (ps : List Policy) :
    ps.Pairwise Agrees ↔
      (ps.map overrides).Pairwise Table.Agrees
        ∧ (ps.map finalLicenses).Pairwise Table.Agrees
        ∧ (ps.map issues).Pairwise Table.Agrees
        ∧ (ps.map failOnIncomplete).Pairwise (· = ·)
        ∧ (ps.map failOnMissing).Pairwise (· = ·) := by
  simp only [List.pairwise_map, ← List.pairwise_and_iff]
  have hsections : ∀ p q : Policy, p.Agrees q ↔
      p.overrides.Agrees q.overrides ∧ p.finalLicenses.Agrees q.finalLicenses
        ∧ p.issues.Agrees q.issues ∧ p.failOnIncomplete = q.failOnIncomplete
        ∧ p.failOnMissing = q.failOnMissing := by
    intro p q
    constructor
    · rintro ⟨ho, hl, hi, hc, hm⟩
      exact ⟨ho, hl, hi, hc, hm⟩
    · rintro ⟨ho, hl, hi, hc, hm⟩
      exact ⟨ho, hl, hi, hc, hm⟩
  exact List.Pairwise.iff fun p q => hsections p q

-- ============================================================== silence

theorem pairwise_eq_cons_iff {α : Type} {x : α} {xs : List α} :
    (x :: xs).Pairwise (· = ·) ↔ ∀ y ∈ xs, y = x := by
  rw [List.pairwise_cons]
  constructor
  · rintro ⟨h, -⟩ y hy
    exact (h y hy).symm
  · intro h
    refine ⟨fun y hy => (h y hy).symm, ?_⟩
    exact List.pairwise_of_forall_mem_list fun y hy z hz => (h y hy).trans (h z hz).symm

/-- A flag is told unless all policies have the value of the first. -/
theorem flagConflicts_eq_nil_iff (name : String) (first : Bool) (values : List Bool) :
    flagConflicts name first values = [] ↔ (first :: values).Pairwise (· = ·) := by
  have hall : values.all (· == first) = true ↔ ∀ v ∈ values, v = first := by
    simp only [List.all_eq_true, beq_iff_eq]
  rw [pairwise_eq_cons_iff, ← hall]
  unfold flagConflicts
  split
  · rename_i h
    exact iff_of_true rfl h
  · rename_i h
    exact iff_of_false (by simp) h

/-- Merging tells nothing if and only if every two policies agree. -/
theorem merge_snd_eq_nil_iff (ps : List Policy) :
    (merge ps).2 = [] ↔ ps.Pairwise Agrees := by
  cases ps with
  | nil => exact iff_of_true rfl List.Pairwise.nil
  | cons p ps =>
      rw [merge_messages, pairwise_agrees_iff]
      simp only [List.append_eq_nil_iff, List.map_eq_nil_iff, mergeTables_snd_eq_nil_iff,
        flagConflicts_eq_nil_iff, and_assoc, List.map_cons]

/-- Conflicts are found soundly and completely. Of any number of policies,
merging tells nothing exactly if every two of them agree; exactly then
checking the merge succeeds, and otherwise it counts the messages. -/
theorem merge_silent_iff (ps : List Policy) :
    ((mergeInto [] ps).2 = [] ↔ ps.Pairwise Agrees)
      ∧ (mergeAndCheck [] ps = (.ok (mergeInto [] ps).1, []) ↔ ps.Pairwise Agrees)
      ∧ (mergeAndCheck [] ps
            = (.error (.conflictsPresent (mergeInto [] ps).2.length), (mergeInto [] ps).2)
          ↔ ¬ ps.Pairwise Agrees) := by
  have hsilent : (mergeInto [] ps).2 = [] ↔ ps.Pairwise Agrees := merge_snd_eq_nil_iff ps
  have hcheck : mergeAndCheck [] ps
      = ((Report.check (mergeInto [] ps).2).map fun _ => (mergeInto [] ps).1,
          (mergeInto [] ps).2) := rfl
  refine ⟨hsilent, ?_⟩
  by_cases hagree : ps.Pairwise Agrees
  · have hnothing := hsilent.2 hagree
    have hok : mergeAndCheck [] ps = (.ok (mergeInto [] ps).1, []) := by
      rw [hcheck, hnothing]
      rfl
    rw [hok]
    exact ⟨iff_of_true rfl hagree, iff_of_false (by simp) (not_not_intro hagree)⟩
  · have htold : (mergeInto [] ps).2 ≠ [] := fun h => hagree (hsilent.1 h)
    have hfails : Report.check (mergeInto [] ps).2
        = .error (.conflictsPresent (mergeInto [] ps).2.length) := by
      rw [Report.check, if_neg (by simpa using htold)]
    have herror : mergeAndCheck [] ps
        = (.error (.conflictsPresent (mergeInto [] ps).2.length), (mergeInto [] ps).2) := by
      rw [hcheck, hfails]
      rfl
    rw [herror]
    exact ⟨iff_of_false (by simp) hagree, iff_of_true rfl hagree⟩

end Clearance.Policy
