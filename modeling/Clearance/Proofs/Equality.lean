/-
When policies are equal. Policies are compared with `==`, and that looks at
the sets of selectors and at the tables without their order. This file
takes `==` on policies apart into its sections, and says what a proof of it
needs:

- `Policy.Equivalent`: the same selectors in every set, the same values
  under the same keys of every table. `Same` is the relation on values, so
  this is an equivalence whatever the numbers.
- Sets that repeat no selector, as `==` counts them. Every policy that is
  built or merged has such sets (`noRepeats_ofEntries`, `noRepeats_merge`).
- One of the two policies equal to itself, which a policy without a
  not-a-number is.

`Equivalent.beq` puts the three together.
-/
import Clearance.Proofs.Agreement

namespace Clearance

-- ============================================================== numbers

/-- A number equals itself, unless it is a not-a-number. -/
theorem float_self_beq {x : Float} (h : x.isNaN = false) : (x == x) = true := by
  rw [float_beq_iff]
  unfold Float.isNaN Float.Model.isNaN at h
  cases hx : x.toModel.unpack with
  | notANumber =>
      rw [hx] at h
      exact absurd h (by decide)
  | infinity s => exact ⟨_, rfl, rfl⟩
  | zero s => exact ⟨_, rfl, rfl⟩
  | finite s m e hm => cases s <;> exact ⟨_, rfl, rfl⟩

/-- So does an issue. -/
theorem Issue.self_beq {i : Issue} (h : i.severity.isNaN = false) : (i == i) = true :=
  Issue.beq_iff i i |>.2 ⟨rfl, rfl, float_self_beq h, rfl⟩

/-- A list equals itself exactly if its values do. -/
theorem list_self_beq_iff {α : Type} [BEq α] {xs : List α} :
    (xs == xs) = true ↔ ∀ x ∈ xs, (x == x) = true := by
  induction xs with
  | nil => simp
  | cons x xs ih => rw [List.cons_beq_cons, Bool.and_eq_true, ih, List.forall_mem_cons]

-- ================================================================= sets

/-- Sets without repetitions are compared by their members. -/
theorem sameMembers_iff {α : Type} [BEq α] [LawfulBEq α] {xs ys : List α} (hxs : xs.Nodup)
    (hys : ys.Nodup) : sameMembers xs ys = true ↔ ∀ x, x ∈ xs ↔ x ∈ ys := by
  unfold sameMembers
  simp only [Bool.and_eq_true, beq_iff_eq, List.all_eq_true, List.contains_iff_mem]
  constructor
  · rintro ⟨hlength, hsub⟩ x
    -- members of the other set that are as many are all of them
    have hperm : xs.Perm ys :=
      (List.subperm_of_subset hxs hsub).perm_of_length_le (Nat.le_of_eq hlength.symm)
    exact hperm.mem_iff
  · intro h
    have hperm : xs.Perm ys := (List.perm_ext_iff_of_nodup hxs hys).2 h
    exact ⟨hperm.length_eq, fun x hx => (h x).1 hx⟩

-- =============================================================== tables

namespace Table

variable {κ ν : Type} [BEq κ] [BEq ν]

/-- Two tables have the same values under the same keys. -/
def Alike (t u : Table κ ν) : Prop := ∀ k, Option.Rel Same (t.get? k) (u.get? k)

theorem Alike.refl (t : Table κ ν) : t.Alike t := by
  intro k
  cases t.get? k with
  | none => exact Option.Rel.none
  | some v => exact Option.Rel.some (Same.refl v)

variable [LawfulBEq κ] [PartialEquivBEq ν]

/-- A table equals itself exactly if all its values do. -/
theorem self_beq_iff {t : Table κ ν} :
    (t == t) = true ↔ ∀ k v, t.get? k = some v → (v == v) = true := by
  rw [beq_iff]
  constructor
  · intro h k v hv
    have hk := h k
    rw [hv] at hk
    simpa using hk
  · intro h k
    cases hv : t.get? k with
    | none => rfl
    | some v => simpa using h k v hv

/-- Tables that are alike are equal if one of them equals itself. -/
theorem Alike.beq {t u : Table κ ν} (h : t.Alike u) (hself : (u == u) = true) :
    (t == u) = true := by
  rw [self_beq_iff] at hself
  rw [beq_iff]
  intro k
  have hk := h k
  cases hu : u.get? k with
  | none =>
      rw [hu] at hk
      cases ht : t.get? k with
      | none => rfl
      | some v =>
          rw [ht] at hk
          cases hk
  | some w =>
      rw [hu] at hk
      cases ht : t.get? k with
      | none =>
          rw [ht] at hk
          cases hk
      | some v =>
          rw [ht] at hk
          cases hk with
          | some hvw => simpa using hvw.beq_left (hself k w hu)

end Table

-- ============================================================= policies

namespace Policy

/-- What `==` on policies compares. -/
theorem beq_iff {p q : Policy} :
    (p == q) = true ↔ sameMembers p.ignored q.ignored = true
      ∧ (p.overrides == q.overrides) = true ∧ (p.added == q.added) = true
      ∧ sameMembers p.removed q.removed = true
      ∧ sameMembers p.validMissing q.validMissing = true
      ∧ sameMembers p.validIncomplete q.validIncomplete = true
      ∧ (p.finalLicenses == q.finalLicenses) = true ∧ (p.issues == q.issues) = true
      ∧ (p.suppressed == q.suppressed) = true
      ∧ p.failOnIncomplete = q.failOnIncomplete ∧ p.failOnMissing = q.failOnMissing := by
  show (_ && _ && _ && _ && _ && _ && _ && _ && _ && _ && _) = true ↔ _
  simp only [Bool.and_eq_true, beq_iff_eq, and_assoc]

/-- Two policies have the same selectors in every set, the same values under
the same keys of every table, and the same added artifacts and flags. -/
structure Equivalent (p q : Policy) : Prop where
  ignored : ∀ s, s ∈ p.ignored ↔ s ∈ q.ignored
  overrides : p.overrides.Alike q.overrides
  added : Same p.added q.added
  removed : ∀ s, s ∈ p.removed ↔ s ∈ q.removed
  validMissing : ∀ s, s ∈ p.validMissing ↔ s ∈ q.validMissing
  validIncomplete : ∀ s, s ∈ p.validIncomplete ↔ s ∈ q.validIncomplete
  finalLicenses : p.finalLicenses.Alike q.finalLicenses
  issues : p.issues.Alike q.issues
  suppressed : p.suppressed.Alike q.suppressed
  failOnIncomplete : p.failOnIncomplete = q.failOnIncomplete
  failOnMissing : p.failOnMissing = q.failOnMissing

-- =================================================== no repetitions

/-- No set of the policy has a selector twice. -/
structure NoRepeats (p : Policy) : Prop where
  ignored : p.ignored.Nodup
  removed : p.removed.Nodup
  validMissing : p.validMissing.Nodup
  validIncomplete : p.validIncomplete.Nodup

theorem NoRepeats.write {p : Policy} (h : p.NoRepeats) (e : Entry) : (p.write e).NoRepeats := by
  obtain ⟨hignored, hremoved, hmissing, hincomplete⟩ := h
  cases e with
  | ignore s => exact ⟨nodup_addNew hignored s, hremoved, hmissing, hincomplete⟩
  | remove s => exact ⟨hignored, nodup_addNew hremoved s, hmissing, hincomplete⟩
  | validMissing s => exact ⟨hignored, hremoved, nodup_addNew hmissing s, hincomplete⟩
  | validIncomplete s => exact ⟨hignored, hremoved, hmissing, nodup_addNew hincomplete s⟩
  | _ => exact ⟨hignored, hremoved, hmissing, hincomplete⟩

theorem noRepeats_ofEntries (es : List Entry) : (ofEntries es).NoRepeats := by
  have hwritten : (es.foldl write empty).NoRepeats :=
    List.foldlRecOn (motive := NoRepeats) es write
      ⟨List.nodup_nil, List.nodup_nil, List.nodup_nil, List.nodup_nil⟩ fun p hp e _ => hp.write e
  exact ⟨hwritten.ignored, hwritten.removed, nodup_addAllNew hwritten.validMissing _,
    nodup_addAllNew hwritten.validIncomplete _⟩

theorem noRepeats_merge (ps : List Policy) : (merge ps).1.NoRepeats := by
  constructor
  · rw [merge_ignored]
    exact nodup_distinct _
  · rw [merge_removed]
    exact nodup_distinct _
  · rw [merge_validMissing]
    exact nodup_distinct _
  · rw [merge_validIncomplete]
    exact nodup_distinct _

-- ========================================================= equality

/-- A policy equals itself exactly if what it holds does. -/
theorem self_beq_iff {p : Policy} :
    (p == p) = true ↔ (p.overrides == p.overrides) = true ∧ (p.added == p.added) = true
      ∧ (p.issues == p.issues) = true := by
  have hset : ∀ xs : List Selector, sameMembers xs xs = true := by
    intro xs
    simp [sameMembers]
  have hlicenses : (p.finalLicenses == p.finalLicenses) = true :=
    Table.self_beq_iff.2 fun _ v _ => beq_self_eq_true v
  have hsuppressed : (p.suppressed == p.suppressed) = true :=
    Table.self_beq_iff.2 fun _ dates _ => Table.self_beq_iff.2 fun _ d _ => beq_self_eq_true d
  rw [beq_iff]
  constructor
  · rintro ⟨-, hoverrides, hadded, -, -, -, -, hissues, -⟩
    exact ⟨hoverrides, hadded, hissues⟩
  · rintro ⟨hoverrides, hadded, hissues⟩
    exact ⟨hset _, hoverrides, hadded, hset _, hset _, hset _, hlicenses, hissues, hsuppressed,
      rfl, rfl⟩

/-- Equivalent policies are equal, if their sets have no repetitions and
one of them equals itself. -/
theorem Equivalent.beq {p q : Policy} (h : p.Equivalent q) (hp : p.NoRepeats) (hq : q.NoRepeats)
    (hself : (q == q) = true) : (p == q) = true := by
  obtain ⟨-, hoverrides, hadded, -, -, -, hlicenses, hissues, hsuppressed, -⟩ :=
    beq_iff.1 hself
  exact beq_iff.2 ⟨(sameMembers_iff hp.ignored hq.ignored).2 h.ignored,
    h.overrides.beq hoverrides, h.added.beq_left hadded,
    (sameMembers_iff hp.removed hq.removed).2 h.removed,
    (sameMembers_iff hp.validMissing hq.validMissing).2 h.validMissing,
    (sameMembers_iff hp.validIncomplete hq.validIncomplete).2 h.validIncomplete,
    h.finalLicenses.beq hlicenses, h.issues.beq hissues, h.suppressed.beq hsuppressed,
    h.failOnIncomplete, h.failOnMissing⟩

-- ============================================================= merging

/-- A value of a merged table is a value of one of the tables. -/
theorem mem_of_get?_mergeTables {ν : Type} [BEq ν] (how : Settlement)
    {tables : List (Table Selector ν)} {s : Selector} {v : ν}
    (h : (mergeTables how tables).1.get? s = some v) : ∃ t ∈ tables, t.get? s = some v := by
  by_cases habandon : how = .abandon
  · subst habandon
    rw [mergeTables_abandon] at h
    split at h
    · rw [get?_mergeTables (by decide)] at h
      exact mem_of_standing h
    · exact absurd h (by simp)
  · rw [get?_mergeTables habandon] at h
    exact mem_of_standing h

/-- What is merged from policies that equal themselves does so too. -/
theorem self_beq_merge {ps : List Policy} (h : ∀ p ∈ ps, (p == p) = true) :
    ((merge ps).1 == (merge ps).1) = true := by
  have htable : ∀ {ν : Type} [BEq ν] [PartialEquivBEq ν] (how : Settlement)
      (part : Policy → Table Selector ν), (∀ p ∈ ps, (part p == part p) = true) →
      ((mergeTables how (ps.map part)).1 == (mergeTables how (ps.map part)).1) = true := by
    intro ν _ _ how part hpart
    refine Table.self_beq_iff.2 fun s v hv => ?_
    obtain ⟨t, ht, htv⟩ := mem_of_get?_mergeTables how hv
    obtain ⟨p, hp, rfl⟩ := List.mem_map.1 ht
    exact Table.self_beq_iff.1 (hpart p hp) s v htv
  rw [self_beq_iff, merge_overrides, merge_added, merge_issues]
  refine ⟨htable _ overrides fun p hp => (self_beq_iff.1 (h p hp)).1, ?_,
    htable _ issues fun p hp => (self_beq_iff.1 (h p hp)).2.2⟩
  refine list_self_beq_iff.2 fun a ha => ?_
  obtain ⟨p, hp, hap⟩ := List.mem_flatMap.1 (mem_of_mem_distinct ha)
  exact list_self_beq_iff.1 (self_beq_iff.1 (h p hp)).2.1 a hap

end Policy

end Clearance
