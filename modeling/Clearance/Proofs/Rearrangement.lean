/-
Merging in another order. Policies are compared in the order in which they
come: with the first value, with the latest one, or until the first
conflict. Nonetheless it does not depend on their order whether they
conflict, since what is found out is whether every two of them agree, and
that is symmetric.

# Without a conflict

The merged policies are the same then, except for the order in which sets,
tables and added artifacts hold what they hold (`EqualUpToOrder`).

- Under every key there is one value, up to `==`. Two orders may take it
  from two different policies, and nothing tells the two values apart
  (`reordered_mergeTables`).
- The earliest of some dates does not depend on their order.
- Of added artifacts that are equal the first one is kept. So the two
  lists hold artifacts that all differ, each list has an equal of each
  artifact in the other, and one of them can be put in the order of the
  other (`exists_perm_beq`).
-/
import Clearance.Proofs.Definite
import Clearance.Proofs.Reordering
import Clearance.Proofs.Sections
import Mathlib.Data.List.Pairwise

namespace Clearance

-- ================================================================ lists

/-- Two lists of which each holds an equal of every value in the other, and
no two equals itself, are equal once one of them is put in order. -/
theorem exists_perm_beq {α : Type} [BEq α] [PartialEquivBEq α] {xs ys : List α}
    (hxs : xs.Pairwise fun x y => (x == y) = false)
    (hys : ys.Pairwise fun x y => (x == y) = false)
    (hcover : ∀ x ∈ xs, ys.contains x = true) (hcovered : ∀ y ∈ ys, xs.contains y = true) :
    ∃ zs, zs.Perm ys ∧ (xs == zs) = true := by
  induction xs generalizing ys with
  | nil =>
      cases ys with
      | nil => exact ⟨[], List.Perm.refl [], rfl⟩
      | cons y ys => exact absurd (hcovered y (List.mem_cons_self ..)) (by simp)
  | cons x xs ih =>
      rw [List.pairwise_cons] at hxs
      rw [List.forall_mem_cons] at hcover
      obtain ⟨y, hy, hxy⟩ := List.contains_iff_exists_mem_beq.1 hcover.1
      obtain ⟨s, t, rfl⟩ := List.append_of_mem hy
      have hsymm : ∀ {a b : α}, (a == b) = false → (b == a) = false := by
        intro a b h
        rw [BEq.comm, h]
      have hmiddle : (s ++ y :: t).Perm (y :: (s ++ t)) := List.perm_middle
      have hrest := (hmiddle.pairwise_iff hsymm).1 hys
      rw [List.pairwise_cons] at hrest
      -- the partners of the others are not `y`, whose partner is `x`
      have hothers : ∀ x' ∈ xs, (s ++ t).contains x' = true := by
        intro x' hx'
        obtain ⟨y', hy', hxy'⟩ := List.contains_iff_exists_mem_beq.1 (hcover.2 x' hx')
        rcases List.mem_cons.1 (hmiddle.mem_iff.1 hy') with rfl | hin
        · exact absurd (BEq.trans hxy (BEq.symm hxy')) (by simp [hxs.1 x' hx'])
        · exact List.contains_iff_exists_mem_beq.2 ⟨y', hin, hxy'⟩
      have hpartners : ∀ y' ∈ s ++ t, xs.contains y' = true := by
        intro y' hy'
        have hin : y' ∈ s ++ y :: t := hmiddle.mem_iff.2 (List.mem_cons_of_mem y hy')
        obtain ⟨x', hx', hyx⟩ := List.contains_iff_exists_mem_beq.1 (hcovered y' hin)
        rcases List.mem_cons.1 hx' with rfl | hx'
        · exact absurd (BEq.trans (BEq.symm hxy) (BEq.symm hyx)) (by simp [hrest.1 y' hy'])
        · exact List.contains_iff_exists_mem_beq.2 ⟨x', hx', hyx⟩
      obtain ⟨zs, hperm, hzs⟩ := ih hxs.2 hrest.2 hothers hpartners
      refine ⟨y :: zs, (hperm.cons y).trans hmiddle.symm, ?_⟩
      rw [List.cons_beq_cons, hxy, hzs]
      rfl

namespace Date

theorem earliestOf_of_perm {α : Type} {xs ys : List α} (hperm : xs.Perm ys)
    (f : α → Option Date) : earliestOf f xs = earliestOf f ys := by
  apply Option.ext
  intro d
  rw [earliestOf_eq_some_iff, earliestOf_eq_some_iff]
  simp only [hperm.mem_iff]

end Date

namespace Policy

variable {ps qs : List Policy}

-- ============================================================= sections

/-- The merged tables of two orders of policies that agree. -/
theorem reordered_mergeTables {ν : Type} [BEq ν] [PartialEquivBEq ν] (how : Settlement)
    {part : Policy → Table Selector ν} (hperm : ps.Perm qs)
    (hagree : (ps.map part).Pairwise Table.Agrees) :
    (mergeTables how (ps.map part)).1.Reordered Same (Apart (fun p => (part p).keys) ps)
      (mergeTables how (qs.map part)).1 := by
  have hagree' : (qs.map part).Pairwise Table.Agrees :=
    ((hperm.map part).pairwise_iff Table.Agrees.symm).1 hagree
  have hkeys : ∀ {l : List Policy}, (l.map part).Pairwise Table.Agrees →
      (mergeTables how (l.map part)).1.keys = distinct (l.flatMap fun p => (part p).keys) := by
    intro l hl
    rw [keys_mergeTables_of_agree how hl, List.flatMap_map]
  refine ⟨?_, fun s => ?_, fun {a b} hab hba => ?_⟩
  · rw [hkeys hagree, hkeys hagree', List.perm_ext_iff_of_nodup (nodup_distinct _)
      (nodup_distinct _)]
    intro s
    simp only [mem_distinct, List.mem_flatMap, hperm.mem_iff]
  · rw [get?_mergeTables_of_agree how hagree, get?_mergeTables_of_agree how hagree',
      List.findSome?_map, List.findSome?_map]
    rcases findSome?_of_perm hperm ((fun t => t.get? s) ∘ part) with
      heq | ⟨p, hp, q, hq, hpq, v, w, hv, hw, hps, hqs⟩
    · rw [heq]
      cases qs.findSome? ((fun t => t.get? s) ∘ part) with
      | none => exact Option.Rel.none
      | some v => exact Option.Rel.some (Same.refl v)
    · have : Std.Symm fun p q => (part p).Agrees (part q) := ⟨fun _ _ => Table.Agrees.symm⟩
      have hpart := (List.pairwise_map.1 hagree).forall hp hq hpq
      rw [hps, hqs]
      exact Option.Rel.some (Same.of_beq (hpart s v w hv hw))
  · rw [hkeys hagree] at hab
    rw [hkeys hagree'] at hba
    exact apart_of_inverted hperm hab hba

theorem mem_mergeSets_of_perm (part : Policy → List Selector) (hperm : ps.Perm qs)
    (s : Selector) : s ∈ mergeSets (ps.map part) ↔ s ∈ mergeSets (qs.map part) := by
  simp only [mem_mergeSets, hperm.mem_iff]

/-- The lists that are put together from two orders, each of which may
repeat what equals itself. -/
theorem exists_perm_distinct {α : Type} [BEq α] [PartialEquivBEq α] {part : Policy → List α}
    (hperm : ps.Perm qs) (hself : ∀ p ∈ ps, (part p == part p) = true) :
    ∃ zs, zs.Perm (distinct (qs.flatMap part))
      ∧ (distinct (ps.flatMap part) == zs) = true := by
  have hflat : (ps.flatMap part).Perm (qs.flatMap part) := hperm.flatMap_right part
  have hequal : ∀ a ∈ ps.flatMap part, (a == a) = true := by
    intro a ha
    obtain ⟨p, hp, hap⟩ := List.mem_flatMap.1 ha
    exact list_self_beq_iff.1 (hself p hp) a hap
  have hcovers : ∀ {l m : List α}, l.Perm m → (∀ a ∈ m, (a == a) = true) →
      ∀ a ∈ distinct m, (distinct l).contains a = true := by
    intro l m hlm hm a ha
    have hin : a ∈ m := mem_of_mem_distinct ha
    rw [distinct, contains_addAllNew, Bool.or_eq_true]
    exact Or.inr (List.contains_iff_exists_mem_beq.2 ⟨a, hlm.mem_iff.2 hin, hm a hin⟩)
  refine exists_perm_beq (pairwise_distinct _) (pairwise_distinct _) ?_ ?_
  · exact hcovers hflat.symm hequal
  · exact hcovers hflat fun a ha => hequal a (hflat.mem_iff.2 ha)

theorem alike_suppressed_of_perm (hperm : ps.Perm qs) :
    (merge ps).1.suppressed.Alike (merge qs).1.suppressed := by
  have hkeys : ∀ r, r ∈ (merge ps).1.suppressed.keys ↔ r ∈ (merge qs).1.suppressed.keys := by
    have hmem : ∀ {l : List Policy} {r : String}, r ∈ (merge l).1.suppressed.keys
        ↔ r ∈ (l.flatMap suppressions).map Prod.fst := by
      intro l r
      rw [merge_suppressed, mergeSuppressions_eq, keys_suppressAll]
      exact mem_distinct
    intro r
    rw [hmem, hmem]
    exact ((hperm.flatMap_right suppressions).map Prod.fst).mem_iff
  have hdates : ∀ r, (datesOf (merge ps).1.suppressed r == datesOf (merge qs).1.suppressed r)
      = true := by
    intro r
    rw [Table.beq_iff]
    intro s
    have huntil : (merge ps).1.until? r s = (merge qs).1.until? r s := by
      rw [until?_merge_eq_earliestOf, until?_merge_eq_earliestOf,
        Date.earliestOf_of_perm hperm]
    exact beq_iff_eq.2 huntil
  intro r
  have hr := hdates r
  cases ht : (merge ps).1.suppressed.get? r with
  | none =>
      rw [Table.get?_eq_none_iff, hkeys, ← Table.get?_eq_none_iff] at ht
      rw [ht]
      exact Option.Rel.none
  | some dates =>
      obtain ⟨dates', hu⟩ := Table.mem_keys_iff.1 ((hkeys r).1 (Table.mem_keys_iff.2 ⟨dates, ht⟩))
      rw [datesOf, datesOf, ht, hu] at hr
      rw [hu]
      exact Option.Rel.some (Same.of_beq hr)

/-- Policies that agree have one value of a flag, whichever comes first. -/
theorem flag_of_perm {f : Policy → Bool} {p q : Policy} (hperm : (p :: ps).Perm (q :: qs))
    (hagree : ((p :: ps).map f).Pairwise (· = ·)) : f p = f q := by
  rw [List.map_cons, pairwise_eq_cons_iff, List.forall_mem_map] at hagree
  rcases List.mem_cons.1 (hperm.mem_iff.2 (List.mem_cons_self ..)) with rfl | hq
  · rfl
  · exact (hagree q hq).symm

-- ============================================================= policies

/-- Two policies are equal, once the added artifacts of one of them are put
in order. -/
def EqualUpToOrder (p q : Policy) : Prop :=
  ∃ added, added.Perm q.added ∧ (p == { q with added }) = true

/-- Merging tells something in one order exactly if it does in the other. -/
theorem merge_snd_of_perm (hperm : ps.Perm qs) : (merge ps).2 = [] ↔ (merge qs).2 = [] := by
  rw [merge_snd_eq_nil_iff, merge_snd_eq_nil_iff]
  exact hperm.pairwise_iff Agrees.symm

/-- Merging policies that agree comes to the same in every order, but for the
added artifacts, which may take an order of their own. -/
theorem equivalent_of_perm (hperm : ps.Perm qs) (hagree : ps.Pairwise Agrees)
    {added : List Artifact} (hadded : ((merge ps).1.added == added) = true) :
    (merge ps).1.Equivalent { (merge qs).1 with added } := by
  obtain ⟨hoverrides, hlicenses, hissues, hincomplete, hmissing⟩ :=
    (pairwise_agrees_iff ps).1 hagree
  have hset : ∀ part : Policy → List Selector, ∀ s,
      s ∈ mergeSets (ps.map part) ↔ s ∈ mergeSets (qs.map part) := fun part s =>
    mem_mergeSets_of_perm part hperm s
  have htable : ∀ {ν : Type} [BEq ν] [PartialEquivBEq ν] (how : Settlement)
      (part : Policy → Table Selector ν), (ps.map part).Pairwise Table.Agrees →
      (mergeTables how (ps.map part)).1.Alike (mergeTables how (qs.map part)).1 :=
    fun how part hpart => (reordered_mergeTables how hperm hpart).values
  have hflags : (merge ps).1.failOnIncomplete = (merge qs).1.failOnIncomplete
      ∧ (merge ps).1.failOnMissing = (merge qs).1.failOnMissing := by
    cases ps with
    | nil =>
        rw [List.nil_perm.1 hperm]
        exact ⟨rfl, rfl⟩
    | cons p ps =>
        cases qs with
        | nil => exact absurd hperm.length_eq (by simp)
        | cons q qs =>
            have hp : p.failOnIncomplete = q.failOnIncomplete := flag_of_perm hperm hincomplete
            have hq : p.failOnMissing = q.failOnMissing := flag_of_perm hperm hmissing
            exact ⟨hp, hq⟩
  constructor
  · simpa only [merge_ignored] using hset Policy.ignored
  · simpa only [merge_overrides] using htable .abandon Policy.overrides hoverrides
  · exact Same.of_beq hadded
  · simpa only [merge_removed] using hset Policy.removed
  · simpa only [merge_validMissing] using hset Policy.validMissing
  · simpa only [merge_validIncomplete] using hset Policy.validIncomplete
  · simpa only [merge_finalLicenses] using
      htable .keepFirst Policy.finalLicenses hlicenses
  · simpa only [merge_issues] using htable .takeLast Policy.issues hissues
  · exact alike_suppressed_of_perm hperm
  · exact hflags.1
  · exact hflags.2

theorem equalUpToOrder_of_perm (hperm : ps.Perm qs) (hself : ∀ p ∈ ps, (p == p) = true)
    (hagree : ps.Pairwise Agrees) : EqualUpToOrder (merge ps).1 (merge qs).1 := by
  obtain ⟨added, hadded, hequal⟩ :=
    exists_perm_distinct hperm fun p hp => (self_beq_iff.1 (hself p hp)).2.1
  rw [← merge_added] at hadded hequal
  have hmerged : ((merge qs).1 == (merge qs).1) = true :=
    self_beq_merge fun q hq => hself q (hperm.mem_iff.2 hq)
  obtain ⟨hoverrides, hartifacts, hissues⟩ := self_beq_iff.1 hmerged
  have hordered : (added == added) = true := list_self_beq_iff.2 fun a ha =>
    list_self_beq_iff.1 hartifacts a (hadded.mem_iff.1 ha)
  obtain ⟨hignored, hremoved, hmissing, hincomplete⟩ := noRepeats_merge qs
  exact ⟨added, hadded, (equivalent_of_perm hperm hagree hequal).beq (noRepeats_merge ps)
    ⟨hignored, hremoved, hmissing, hincomplete⟩
    (self_beq_iff.2 ⟨hoverrides, hordered, hissues⟩)⟩

/-- Whether merging tells something does not depend on the order of the
policies, and if it tells nothing, neither does what comes of it, up to
order. -/
theorem mergeInto_of_perm (hperm : ps.Perm qs) (h : ∀ p ∈ ps, p.definite = true) :
    ((mergeInto [] ps).2 ≠ [] ↔ (mergeInto [] qs).2 ≠ [])
      ∧ ((mergeInto [] ps).2 = [] → EqualUpToOrder (mergeInto [] ps).1 (mergeInto [] qs).1) := by
  refine ⟨(merge_snd_of_perm hperm).not, fun hsilent => ?_⟩
  refine equalUpToOrder_of_perm hperm (fun p hp => beq_of_definite (h p hp)) ?_
  exact (merge_snd_eq_nil_iff ps).1 hsilent

/-- A policy that adds some files, and in which the libraries have an issue
of some severity. -/
def listing (severity : Float) (names : List String) : Policy :=
  .ofEntries (.issues (.ofFilename "lib*") [⟨"CVE-1", .opened, severity, none⟩]
    :: names.map fun name => .add (Artifact.empty.add (.filename (.named name))))

/-- The two orders end with different zeros, and with three files in
different orders. -/
theorem mergeInto_of_perm_listing :
    let ps := [listing 0.0 ["a.jar", "b.jar"], listing (-0.0) ["c.jar", "b.jar"]]
    (∀ p ∈ ps, p.definite = true) ∧ (mergeInto [] ps).2 = []
      ∧ (mergeInto [] ps.reverse).2 = []
      ∧ EqualUpToOrder (mergeInto [] ps).1 (mergeInto [] ps.reverse).1 := by
  intro ps
  have hdefinite : ∀ p ∈ ps, p.definite = true := by decide +kernel
  have hsilent : (mergeInto [] ps).2 = [] := by decide +kernel
  obtain ⟨hverdict, hequal⟩ := mergeInto_of_perm ps.reverse_perm.symm hdefinite
  exact ⟨hdefinite, hsilent, not_not.1 (hverdict.not.1 (not_not_intro hsilent)), hequal hsilent⟩

end Policy

end Clearance
