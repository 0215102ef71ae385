/-
A document may be split. Several documents can be converted and their
policies merged, or they can be put together section by section and
converted as one (`Document.joined`). If merging tells nothing, both come to
the same policy.

Duplicates take different ways to it. Within a document the last entry for a
selector is written over those before it. Between policies, the settlement of
the section decides which value stands, and whether anything is told. If
nothing is told, all policies agree where they meet, so the first, the last
and any other of them have the same value as the one that stands
(`alike_ofList_mergeTables`). The rest does not depend on agreement: sets
have the same members, the added artifacts are the same list, and dates of
suppressions are regrouped. So the two policies are equivalent
(`equivalent_joined`), and they are equal where no severity is a
not-a-number (`joined_policy_beq_merge`).
-/
import Clearance.Proofs.Documents
import Clearance.Proofs.Sections

namespace Clearance

namespace Document

-- ============================================================== joining

/-- The document that says what several documents say, section by section,
with the flags of the first. -/
def joined (d : Document) (ds : List Document) : Document where
  ignored := (d :: ds).flatMap Document.ignored
  overrides := (d :: ds).flatMap Document.overrides
  removed := (d :: ds).flatMap Document.removed
  added := (d :: ds).flatMap Document.added
  validMissing := (d :: ds).flatMap Document.validMissing
  validIncomplete := (d :: ds).flatMap Document.validIncomplete
  finalLicenses := (d :: ds).flatMap Document.finalLicenses
  issues := (d :: ds).flatMap Document.issues
  suppressed := (d :: ds).flatMap Document.suppressed
  failOnIncomplete := d.failOnIncomplete
  failOnMissing := d.failOnMissing

/-- The parts of several documents, section by section. -/
def Parts.joined (q : Parts) (qs : List Parts) : Parts where
  ignored := (q :: qs).flatMap Parts.ignored
  overrides := (q :: qs).flatMap Parts.overrides
  removed := (q :: qs).flatMap Parts.removed
  added := (q :: qs).flatMap Parts.added
  validMissing := (q :: qs).flatMap Parts.validMissing
  validIncomplete := (q :: qs).flatMap Parts.validIncomplete
  finalLicenses := (q :: qs).flatMap Parts.finalLicenses
  issues := (q :: qs).flatMap Parts.issues
  suppressed := (q :: qs).flatMap Parts.suppressed
  failOnIncomplete := q.failOnIncomplete
  failOnMissing := q.failOnMissing

/-- Documents that convert do so together. -/
theorem holds_joined {d : Document} {ds : List Document} {q : Parts} {qs : List Parts}
    (hd : d.Holds q) (hds : List.Forall₂ Holds ds qs) :
    (joined d ds).Holds (Parts.joined q qs) := by
  have hall : List.Forall₂ Holds (d :: ds) (q :: qs) := .cons hd hds
  exact {
    ignored := List.rel_flatMap hall fun _ _ h => h.ignored
    overrides := List.rel_flatMap hall fun _ _ h => h.overrides
    removed := List.rel_flatMap hall fun _ _ h => h.removed
    added := List.rel_flatMap hall fun _ _ h => h.added
    validMissing := List.rel_flatMap hall fun _ _ h => h.validMissing
    validIncomplete := List.rel_flatMap hall fun _ _ h => h.validIncomplete
    finalLicenses := List.rel_flatMap hall fun _ _ h => h.finalLicenses
    issues := List.rel_flatMap hall fun _ _ h => h.issues
    suppressed := List.rel_flatMap hall fun _ _ h => h.suppressed
    failOnIncomplete := hd.failOnIncomplete
    failOnMissing := hd.failOnMissing }

end Document

-- ========================================================== two readings

namespace Policy

/-- Entries of several tables, written one after another, come to the same
values as merging the tables, if these agree. -/
theorem alike_ofList_mergeTables {ν : Type} [BEq ν] [PartialEquivBEq ν] (how : Settlement)
    {ls : List (List (Selector × ν))} (hagree : (ls.map Table.ofList).Pairwise Table.Agrees) :
    (Table.ofList ls.flatten).Alike (mergeTables how (ls.map Table.ofList)).1 := by
  intro s
  have hmerged : (mergeTables how (ls.map Table.ofList)).1.get? s
      = standing how s (ls.map Table.ofList) := by
    rw [get?_mergeTables_of_agree how hagree, standing_of_agree how s hagree]
  rw [hmerged, Table.get?_ofList_flatten]
  cases hlast : ls.reverse.findSome? fun l => (Table.ofList l).get? s with
  | some v =>
      -- the last value need not stand, but it is one of those that agree
      obtain ⟨l, hl, hv⟩ := List.exists_of_findSome?_eq_some hlast
      obtain ⟨w, hw, hwv⟩ :=
        same_standing how hagree (List.mem_map_of_mem (List.mem_reverse.1 hl)) hv
      rw [hw]
      exact Option.Rel.some hwv.symm
  | none =>
      rw [List.findSome?_eq_none_iff] at hlast
      cases hstands : standing how s (ls.map Table.ofList) with
      | none => exact Option.Rel.none
      | some w =>
          obtain ⟨t, ht, htw⟩ := mem_of_standing hstands
          obtain ⟨l, hl, rfl⟩ := List.mem_map.1 ht
          rw [hlast l (List.mem_reverse.2 hl)] at htw
          exact absurd htw (by simp)

end Policy

namespace Document

section Sections

variable (rs : List Parts)

/-- A section of selectors has the same members, written together or
united. -/
theorem mem_flatMap_iff_mem_mergeSets (part : Policy → List Selector)
    (said : Parts → List Selector) (hpart : ∀ r : Parts, part r.policy = distinct (said r))
    (s : Selector) :
    s ∈ distinct (rs.flatMap said) ↔ s ∈ Policy.mergeSets ((rs.map Parts.policy).map part) := by
  rw [mem_distinct, List.mem_flatMap, Policy.mem_mergeSets]
  simp only [List.mem_map, exists_exists_and_eq_and, hpart, mem_distinct]

/-- Ignored artifacts may miss sources, be that settled in every document or
at the end. -/
theorem mem_sealed_iff_mem_mergeSets (part : Policy → List Selector)
    (said : Parts → List Selector)
    (hpart : ∀ r : Parts, part r.policy = addAllNew (distinct (said r)) (distinct r.ignored))
    (s : Selector) :
    s ∈ addAllNew (distinct (rs.flatMap said)) (distinct (rs.flatMap Parts.ignored))
      ↔ s ∈ Policy.mergeSets ((rs.map Parts.policy).map part) := by
  rw [mem_addAllNew, mem_distinct, mem_distinct, List.mem_flatMap, List.mem_flatMap,
    Policy.mem_mergeSets]
  simp only [List.mem_map, exists_exists_and_eq_and, hpart, mem_addAllNew, mem_distinct,
    and_or_left, exists_or]

/-- A section of values by selector has the same ones, written together or
merged, if the policies agree. -/
theorem alike_flatMap_mergeTables {ν : Type} [BEq ν] [PartialEquivBEq ν] (how : Settlement)
    (part : Policy → Table Selector ν) (said : Parts → List (Selector × ν))
    (hpart : ∀ r : Parts, part r.policy = Table.ofList (said r))
    (hagree : ((rs.map Parts.policy).map part).Pairwise Table.Agrees) :
    (Table.ofList (rs.flatMap said)).Alike
      (Policy.mergeTables how ((rs.map Parts.policy).map part)).1 := by
  have hwritten : (rs.map Parts.policy).map part = (rs.map said).map Table.ofList := by
    rw [List.map_map, List.map_map]
    exact List.map_congr_left fun r _ => hpart r
  rw [hwritten] at hagree ⊢
  exact Policy.alike_ofList_mergeTables how hagree

end Sections

/-- If the policies of several documents agree, what the documents say
together is what is merged. -/
theorem equivalent_joined {q : Parts} {qs : List Parts}
    (hagree : ((q :: qs).map Parts.policy).Pairwise Policy.Agrees) :
    (Parts.joined q qs).policy.Equivalent (Policy.merge ((q :: qs).map Parts.policy)).1 := by
  obtain ⟨hoverrides, hlicenses, hissues, -⟩ := (Policy.pairwise_agrees_iff _).1 hagree
  constructor
  · rw [Policy.merge_ignored]
    exact mem_flatMap_iff_mem_mergeSets _ Policy.ignored Parts.ignored fun _ => rfl
  · rw [Policy.merge_overrides]
    exact alike_flatMap_mergeTables _ .abandon Policy.overrides Parts.overrides (fun _ => rfl)
      hoverrides
  · rw [Policy.merge_added, List.flatMap_map]
    exact Or.inl (distinct_flatMap_distinct Parts.added _).symm
  · rw [Policy.merge_removed]
    exact mem_flatMap_iff_mem_mergeSets _ Policy.removed Parts.removed fun _ => rfl
  · rw [Policy.merge_validMissing]
    exact mem_sealed_iff_mem_mergeSets _ Policy.validMissing Parts.validMissing fun _ => rfl
  · rw [Policy.merge_validIncomplete]
    exact mem_sealed_iff_mem_mergeSets _ Policy.validIncomplete Parts.validIncomplete
      fun _ => rfl
  · rw [Policy.merge_finalLicenses]
    exact alike_flatMap_mergeTables _ .keepFirst Policy.finalLicenses Parts.finalLicenses
      (fun _ => rfl) hlicenses
  · rw [Policy.merge_issues]
    exact alike_flatMap_mergeTables _ .takeLast Policy.issues Parts.issues (fun _ => rfl)
      hissues
  · rw [Policy.merge_suppressed, Policy.mergeSuppressions_eq, List.flatMap_map]
    show (Policy.suppressAll ∅ ((q :: qs).flatMap Parts.suppressed)).Alike _
    rw [← Policy.suppressAll_flatMap_regroup]
    exact Table.Alike.refl _
  · rfl
  · rfl

/-- Splitting a document cannot be seen. Whenever documents convert and merging
their policies tells nothing, the document that says what they say together
converts, and to an equal policy. -/
theorem joined_policy_beq_merge {d : Document} {ds : List Document} {ps : List Policy}
    (hconvert : (d :: ds).mapM policy = .ok ps)
    (hnumbers : ∀ p ∈ ps, ∀ e ∈ p.issues.entries, ∀ i ∈ e.2, i.severity.isNaN = false)
    (hsilent : (Policy.mergeInto [] ps).2 = []) :
    ∃ p, (joined d ds).policy = .ok p ∧ (p == (Policy.mergeInto [] ps).1) = true := by
  obtain ⟨rs, hrs, rfl⟩ := (mapM_eq_ok_iff fun _ _ => policy_eq_ok_iff).1 hconvert
  obtain ⟨q, qs, hd, hds, rfl⟩ := List.forall₂_cons_left_iff.1 hrs
  have hagree : ((q :: qs).map Parts.policy).Pairwise Policy.Agrees :=
    (Policy.merge_snd_eq_nil_iff _).1 hsilent
  have hself : ∀ p ∈ (q :: qs).map Parts.policy, (p == p) = true := by
    intro p hp
    obtain ⟨r, hr, rfl⟩ := List.mem_map.1 hp
    obtain ⟨c, -, hc⟩ := exists_of_forall₂ hrs hr
    exact self_beq_policy (policy_eq_ok_iff.2 ⟨r, hc, rfl⟩) (hnumbers _ hp)
  have hrepeats : (Parts.joined q qs).policy.NoRepeats := by
    rw [← Parts.ofEntries_entries]
    exact Policy.noRepeats_ofEntries _
  exact ⟨_, policy_eq_ok_iff.2 ⟨_, holds_joined hd hds, rfl⟩,
    (equivalent_joined hagree).beq hrepeats (Policy.noRepeats_merge _) (Policy.self_beq_merge hself)⟩

/-- A document that says some things about the same libraries twice. -/
def repeating : Document :=
  let libraries : SelectorDocument := ⟨some "lib*", none, []⟩
  { empty with
    ignored := [libraries, libraries]
    issues := [⟨libraries, [⟨"CVE-1", .opened, 7.5, none⟩]⟩,
      ⟨libraries, [⟨"CVE-1", .opened, 0.0, none⟩]⟩]
    suppressed := [⟨"CVE-1", libraries, ⟨2024, 6, 1, rfl⟩⟩,
      ⟨"CVE-1", libraries, ⟨2024, 9, 1, rfl⟩⟩] }

/-- A document that says them once more, in other words. -/
def repeated : Document :=
  let libraries : SelectorDocument := ⟨some " lib* ", none, []⟩
  { empty with
    issues := [⟨libraries, [⟨"CVE-1", .opened, -0.0, none⟩]⟩]
    suppressed := [⟨"CVE-1", libraries, ⟨2024, 3, 1, rfl⟩⟩] }

/-- Merged, the first zero stands; together, the last one does. -/
theorem joined_policy_beq_merge_repeated :
    ∃ ps, [repeating, repeated].mapM policy = .ok ps ∧ (Policy.mergeInto [] ps).2 = []
      ∧ ∃ p, (joined repeating [repeated]).policy = .ok p
        ∧ (p == (Policy.mergeInto [] ps).1) = true := by
  have hchecked : (([repeating, repeated].mapM policy).toOption.any fun ps =>
      decide ((Policy.mergeInto [] ps).2 = []
        ∧ ∀ p ∈ ps, ∀ e ∈ p.issues.entries, ∀ i ∈ e.2, i.severity.isNaN = false)) = true := by
    decide +kernel
  cases hconvert : [repeating, repeated].mapM policy with
  | error e =>
      rw [hconvert] at hchecked
      exact absurd hchecked Bool.false_ne_true
  | ok ps =>
      rw [hconvert] at hchecked
      obtain ⟨hsilent, hnumbers⟩ := of_decide_eq_true hchecked
      exact ⟨ps, rfl, hsilent, joined_policy_beq_merge hconvert hnumbers hsilent⟩

end Document

end Clearance
