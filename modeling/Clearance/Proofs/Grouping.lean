/-
Merging in groups. Policies may be merged in two groups whose outcomes are
merged again, and this comes to the same as merging all of them, as long
as nothing is told. A conflict is never lost on the way: if it lies within
a group, merging the group tells it, and if it lies across, then the two
outcomes do not agree either (`agrees_merge_iff`).

Without conflicts the outcomes are equal as they stand, down to the order
of entries. Sets and keys are put together by `addAllNew`, which is
associative; under every key there is one value, the first; dates are
regrouped in `suppressAll_regroup`. With conflicts this fails, because
abandoned overrides leave no trace in the outcome of a group.
-/
import Clearance.Proofs.Suppression

namespace Clearance

-- =============================================================== tables

section Tables

variable {ν : Type} [BEq ν] [PartialEquivBEq ν]

/-- The outcomes of two groups agree exactly if all tables of one group
agree with all of the other. -/
theorem agrees_mergeTables_iff (how : Settlement) {ts us : List (Table Selector ν)}
    (hts : ts.Pairwise Table.Agrees) (hus : us.Pairwise Table.Agrees) :
    (Policy.mergeTables how ts).1.Agrees (Policy.mergeTables how us).1
      ↔ ∀ t ∈ ts, ∀ u ∈ us, t.Agrees u := by
  have hreads : ∀ {l : List (Table Selector ν)}, l.Pairwise Table.Agrees → ∀ s,
      (Policy.mergeTables how l).1.get? s = standing how s l := by
    intro l hl s
    rw [Policy.get?_mergeTables_of_agree how hl, standing_of_agree how s hl]
  constructor
  · intro h t ht u hu s v w hv hw
    obtain ⟨v', hv', hvv'⟩ := same_standing how hts ht hv
    obtain ⟨w', hw', hww'⟩ := same_standing how hus hu hw
    have hfirst : (v' == w') = true := by
      refine h s v' w' ?_ ?_
      · rw [hreads hts, hv']
      · rw [hreads hus, hw']
    -- from the values that stand to those of the two tables
    have hleft : (v == w') = true := hvv'.symm.beq_left hfirst
    exact BEq.symm (hww'.symm.beq_left (BEq.symm hleft))
  · intro h s v w hv hw
    rw [hreads hts] at hv
    rw [hreads hus] at hw
    obtain ⟨t, ht, htv⟩ := mem_of_standing hv
    obtain ⟨u, hu, huw⟩ := mem_of_standing hw
    exact h t ht u hu s v w htv huw

/-- Tables that agree may be merged in groups. -/
theorem mergeTables_grouped (how : Settlement) {ts us : List (Table Selector ν)}
    (h : (ts ++ us).Pairwise Table.Agrees) :
    (Policy.mergeTables how [(Policy.mergeTables how ts).1, (Policy.mergeTables how us).1]).1
      = (Policy.mergeTables how (ts ++ us)).1 := by
  obtain ⟨hts, hus, hcross⟩ := List.pairwise_append.1 h
  have hboth : [(Policy.mergeTables how ts).1, (Policy.mergeTables how us).1].Pairwise
      Table.Agrees := by
    simpa using (agrees_mergeTables_iff how hts hus).2 hcross
  apply Table.ext_get?
  · rw [Policy.keys_mergeTables_of_agree how hboth, Policy.keys_mergeTables_of_agree how h]
    simp only [List.flatMap_cons, List.flatMap_nil, List.append_nil, List.flatMap_append,
      Policy.keys_mergeTables_of_agree how hts, Policy.keys_mergeTables_of_agree how hus]
    exact distinct_append_distinct _ _
  · intro s
    rw [Policy.get?_mergeTables_of_agree how hboth, Policy.get?_mergeTables_of_agree how h,
      List.findSome?_append, ← Policy.get?_mergeTables_of_agree how hts,
      ← Policy.get?_mergeTables_of_agree how hus, List.findSome?_cons, List.findSome?_cons,
      List.findSome?_nil]
    cases (Policy.mergeTables how ts).1.get? s with
    | none => cases (Policy.mergeTables how us).1.get? s <;> rfl
    | some v => rfl

end Tables

namespace Policy

-- ============================================================= policies

/-- The outcomes of two silent groups agree exactly if all policies of one
group agree with all of the other. -/
theorem agrees_merge_iff {x y : Policy} {xs ys : List Policy}
    (hxs : (x :: xs).Pairwise Agrees) (hys : (y :: ys).Pairwise Agrees) :
    (merge (x :: xs)).1.Agrees (merge (y :: ys)).1
      ↔ ∀ p ∈ x :: xs, ∀ q ∈ y :: ys, p.Agrees q := by
  obtain ⟨hxo, hxl, hxi, hxc, hxm⟩ := (pairwise_agrees_iff _).1 hxs
  obtain ⟨hyo, hyl, hyi, hyc, hym⟩ := (pairwise_agrees_iff _).1 hys
  have ho := agrees_mergeTables_iff .abandon hxo hyo
  have hl := agrees_mergeTables_iff .keepFirst hxl hyl
  have hi := agrees_mergeTables_iff .takeLast hxi hyi
  rw [← merge_overrides, ← merge_overrides] at ho
  rw [← merge_finalLicenses, ← merge_finalLicenses] at hl
  rw [← merge_issues, ← merge_issues] at hi
  simp only [List.forall_mem_map] at ho hl hi
  constructor
  · intro h p hp q hq
    have hflag : ∀ {f : Policy → Bool}, ((x :: xs).map f).Pairwise (· = ·) →
        ((y :: ys).map f).Pairwise (· = ·) → f x = f y → f p = f q := by
      intro f hfx hfy hxy
      rw [List.map_cons, pairwise_eq_cons_iff, List.forall_mem_map] at hfx hfy
      have hpx : f p = f x := by
        rcases List.mem_cons.1 hp with rfl | hp'
        · rfl
        · exact hfx p hp'
      have hqy : f q = f y := by
        rcases List.mem_cons.1 hq with rfl | hq'
        · rfl
        · exact hfy q hq'
      rw [hpx, hxy, hqy]
    exact ⟨ho.1 h.overrides p hp q hq, hl.1 h.finalLicenses p hp q hq,
      hi.1 h.issues p hp q hq, hflag hxc hyc h.failOnIncomplete, hflag hxm hym h.failOnMissing⟩
  · intro h
    have hxy := h x (List.mem_cons_self ..) y (List.mem_cons_self ..)
    exact ⟨ho.2 fun p hp q hq => (h p hp q hq).overrides,
      hl.2 fun p hp q hq => (h p hp q hq).finalLicenses,
      hi.2 fun p hp q hq => (h p hp q hq).issues, hxy.failOnIncomplete, hxy.failOnMissing⟩

/-- Policies all agree if those of each group do and the outcomes of the
groups do. -/
theorem pairwise_agrees_append_iff (x y : Policy) (xs ys : List Policy) :
    (x :: xs ++ y :: ys).Pairwise Agrees ↔
      (x :: xs).Pairwise Agrees ∧ (y :: ys).Pairwise Agrees
        ∧ [(merge (x :: xs)).1, (merge (y :: ys)).1].Pairwise Agrees := by
  rw [List.pairwise_append]
  refine and_congr_right fun hxs => and_congr_right fun hys => ?_
  rw [← agrees_merge_iff hxs hys]
  simp

attribute [ext] Policy

/-- Policies that agree may be merged in groups. -/
theorem merge_grouped_eq {x y : Policy} {xs ys : List Policy}
    (h : (x :: xs ++ y :: ys).Pairwise Agrees) :
    (merge [(merge (x :: xs)).1, (merge (y :: ys)).1]).1 = (merge (x :: xs ++ y :: ys)).1 := by
  obtain ⟨ho, hl, hi, -, -⟩ := (pairwise_agrees_iff _).1 h
  rw [List.map_append] at ho hl hi
  have hsets : ∀ part : Policy → List Selector,
      mergeSets [mergeSets ((x :: xs).map part), mergeSets ((y :: ys).map part)]
        = mergeSets ((x :: xs ++ y :: ys).map part) := by
    intro part
    simp only [mergeSets, List.flatten_cons, List.flatten_nil, List.append_nil,
      List.map_append, List.flatten_append]
    exact distinct_append_distinct _ _
  ext1
  · simp only [merge_ignored, List.map_cons, List.map_nil]
    exact hsets ignored
  · rw [merge_overrides, merge_overrides, List.map_append]
    simp only [List.map_cons, List.map_nil, merge_overrides]
    exact mergeTables_grouped .abandon ho
  · rw [merge_added, merge_added, List.flatMap_append]
    simp only [List.flatMap_cons, List.flatMap_nil, List.append_nil, merge_added]
    exact distinct_append_distinct _ _
  · simp only [merge_removed, List.map_cons, List.map_nil]
    exact hsets removed
  · simp only [merge_validMissing, List.map_cons, List.map_nil]
    exact hsets validMissing
  · simp only [merge_validIncomplete, List.map_cons, List.map_nil]
    exact hsets validIncomplete
  · rw [merge_finalLicenses, merge_finalLicenses, List.map_append]
    simp only [List.map_cons, List.map_nil, merge_finalLicenses]
    exact mergeTables_grouped .keepFirst hl
  · rw [merge_issues, merge_issues, List.map_append]
    simp only [List.map_cons, List.map_nil, merge_issues]
    exact mergeTables_grouped .takeLast hi
  · have hregroup : ∀ (t : Table String Suppressions) (zs : List Policy),
        suppressAll t (merge zs).1.suppressions = suppressAll t (zs.flatMap suppressions) := by
      intro t zs
      rw [suppressions_eq, merge_suppressed, mergeSuppressions_eq, suppressAll_regroup]
    rw [merge_suppressed, merge_suppressed, mergeSuppressions_eq, mergeSuppressions_eq,
      List.flatMap_append, suppressAll_append, List.flatMap_cons, List.flatMap_singleton,
      suppressAll_append, hregroup, hregroup]
  · rfl
  · rfl

/-- Merging in two groups and merging at once tell something under the same
conditions, and come to the same if they tell nothing. -/
theorem merge_grouped (x y : Policy) (xs ys : List Policy) :
    ((merge (x :: xs ++ y :: ys)).2 ≠ [] ↔
        (merge (x :: xs)).2 ≠ [] ∨ (merge (y :: ys)).2 ≠ []
          ∨ (merge [(merge (x :: xs)).1, (merge (y :: ys)).1]).2 ≠ [])
      ∧ ((merge (x :: xs ++ y :: ys)).2 = [] →
          (merge [(merge (x :: xs)).1, (merge (y :: ys)).1]).1
            = (merge (x :: xs ++ y :: ys)).1) := by
  have hsilent : (merge (x :: xs ++ y :: ys)).2 = [] ↔
      (merge (x :: xs)).2 = [] ∧ (merge (y :: ys)).2 = []
        ∧ (merge [(merge (x :: xs)).1, (merge (y :: ys)).1]).2 = [] := by
    simp only [merge_snd_eq_nil_iff]
    exact pairwise_agrees_append_iff x y xs ys
  constructor
  · rw [ne_eq, hsilent, not_and_or, not_and_or]
  · intro h
    exact merge_grouped_eq ((merge_snd_eq_nil_iff _).1 h)

end Policy

end Clearance
