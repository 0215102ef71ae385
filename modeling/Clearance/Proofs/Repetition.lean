/-
Merging a list of policies with itself. Every section goes through all
policies a second time, and ends where it was after the first time.

# The second time, section by section

- A set or a list has everything already, so nothing is new
  (`distinct_append_self`).
- Where the first value stands, it still does. Where the last one is
  taken, the second time may change the value back and forth as the first
  time did. It starts from another value, but what stands before the last
  change is the same up to `==`, so the last change happens again
  (`standing_append_self`).
- The earliest date of a suppression is no later than itself.
- Two policies conflict the second time exactly if they did the first
  time, unless a policy conflicts with itself. So abandoned overrides stay
  abandoned, and the report has a message or not as before.

Only where something is compared with itself must there be no
not-a-number: in the list of added artifacts and in the conflicts.
-/
import Clearance.Proofs.Definite
import Clearance.Proofs.Grouping
import Clearance.Proofs.Sections
import Mathlib.Data.List.Pairwise

namespace Clearance

-- ================================================================ lists

section Lists

variable {α : Type}

/-- What is related to itself is related to its copy as to itself. -/
theorem pairwise_append_self {R : α → α → Prop} {xs : List α}
    (hsymm : ∀ {x y}, R x y → R y x) (hself : ∀ x ∈ xs, R x x) :
    (xs ++ xs).Pairwise R ↔ xs.Pairwise R := by
  rw [List.pairwise_append]
  constructor
  · intro h
    exact h.1
  · intro h
    have : Std.Symm R := ⟨fun _ _ => hsymm⟩
    exact ⟨h, h, fun x hx y hy => List.Pairwise.forall_of_forall hself h hx hy⟩

end Lists

-- =============================================================== tables

section Tables

variable {ν : Type} [BEq ν]

theorem standing_append (how : Settlement) (s : Selector)
    (before tables : List (Table Selector ν)) :
    standing how s (before ++ tables)
      = tables.foldl (fun o t => how.after o (t.get? s)) (standing how s before) :=
  List.foldl_append

theorem standing_append_of_none {how : Settlement} {s : Selector}
    {tables : List (Table Selector ν)} (h : standing how s tables = none)
    (before : List (Table Selector ν)) :
    standing how s (before ++ tables) = standing how s before := by
  induction tables using List.reverseRecOn with
  | nil => rw [List.append_nil]
  | append_singleton tables t ih =>
      rw [standing_append_singleton] at h
      have hboth : standing how s tables = none ∧ t.get? s = none := by
        cases hold : standing how s tables <;> cases hnew : t.get? s <;>
          simp_all [Settlement.after]
      rw [← List.append_assoc, standing_append_singleton, ih hboth.1, hboth.2,
        Settlement.after_none]

variable [PartialEquivBEq ν]

/-- Once there is a value, taking the last one leaves the same whatever
came before. -/
theorem same_standing_append {s : Selector} (before : List (Table Selector ν))
    {tables : List (Table Selector ν)} {v : ν} (h : standing .takeLast s tables = some v) :
    ∃ w, standing .takeLast s (before ++ tables) = some w ∧ Same w v := by
  have hone := standing_takeLast s tables
  have hboth := standing_takeLast s (before ++ tables)
  rw [h] at hone
  rw [List.reverse_append, List.findSome?_append] at hboth
  generalize tables.reverse.findSome? (fun t => t.get? s) = last at hone hboth
  cases hone with
  | some hlast =>
      rw [Option.some_or] at hboth
      generalize standing .takeLast s (before ++ tables) = o at hboth
      cases hboth with
      | some hw => exact ⟨_, rfl, hw.trans hlast.symm⟩

theorem standing_takeLast_append_self (s : Selector) (tables : List (Table Selector ν)) :
    standing .takeLast s (tables ++ tables) = standing .takeLast s tables := by
  induction tables using List.reverseRecOn with
  | nil => rfl
  | append_singleton tables t ih =>
      have hlast : standing .takeLast s ((tables ++ [t]) ++ (tables ++ [t]))
          = Settlement.after .takeLast (standing .takeLast s ((tables ++ [t]) ++ tables))
              (t.get? s) := by
        rw [← List.append_assoc, standing_append_singleton]
      -- unless the last table changes the value, the second time starts as if it were not there
      have hunchanged : standing .takeLast s (tables ++ [t]) = standing .takeLast s tables →
          standing .takeLast s ((tables ++ [t]) ++ tables) = standing .takeLast s tables := by
        intro h
        rw [standing_append, h, ← standing_append, ih]
      rw [hlast]
      have hstep := standing_append_singleton .takeLast s tables t
      cases hnew : t.get? s with
      | none =>
          rw [hnew, Settlement.after_none] at hstep
          rw [Settlement.after_none, hunchanged hstep, hstep]
      | some new =>
          rw [hnew] at hstep
          cases hold : standing .takeLast s tables with
          | none =>
              rw [hold] at hstep
              rw [standing_append_of_none hold, hstep]
              simp [Settlement.after, Settlement.keep]
          | some old =>
              rw [hold] at hstep
              by_cases heq : (old == new) = true
              · have hstays : standing .takeLast s (tables ++ [t]) = some old := by
                  simp [hstep, Settlement.after, Settlement.keep, heq]
                rw [hunchanged (hstays.trans hold.symm), hold, hstays]
                simp [Settlement.after, Settlement.keep, heq]
              · -- the value that the second time comes here with differs from `new` as well
                obtain ⟨w, hw, hwold⟩ := same_standing_append (tables ++ [t]) hold
                have hdiffers : ¬ (w == new) = true := fun hwnew =>
                  heq (hwold.symm.beq_left hwnew)
                rw [hw, hstep]
                simp [Settlement.after, Settlement.keep, heq, hdiffers]

/-- However conflicts are settled, what stands after all tables stands
after going through them again. -/
theorem standing_append_self (how : Settlement) (s : Selector)
    (tables : List (Table Selector ν)) :
    standing how s (tables ++ tables) = standing how s tables := by
  by_cases h : how = .takeLast
  · rw [h, standing_takeLast_append_self]
  · rw [standing_eq_findSome? h, standing_eq_findSome? h, List.findSome?_append, Option.or_self]

theorem Table.agrees_self {t : Table Selector ν} (h : (t == t) = true) : t.Agrees t := by
  intro s v w hv hw
  obtain rfl : v = w := Option.some.inj (hv.symm.trans hw)
  exact Table.self_beq_iff.1 h s v hv

/-- Merging tables twice over, of which each equals itself. -/
theorem Policy.mergeTables_append_self (how : Settlement) {tables : List (Table Selector ν)}
    (h : ∀ t ∈ tables, (t == t) = true) :
    (mergeTables how (tables ++ tables)).1 = (mergeTables how tables).1 := by
  have hwalk : ∀ {how : Settlement}, how ≠ .abandon →
      (mergeTables how (tables ++ tables)).1 = (mergeTables how tables).1 := by
    intro how hhow
    apply Table.ext_get?
    · rw [keys_mergeTables hhow, keys_mergeTables hhow, List.flatMap_append]
      exact distinct_append_self fun s _ => beq_self_eq_true s
    · intro s
      rw [get?_mergeTables hhow, get?_mergeTables hhow, standing_append_self]
  by_cases hhow : how = .abandon
  · subst hhow
    have hdispute : disputed .keepFirst [] (tables ++ tables) = []
        ↔ disputed .keepFirst [] tables = [] := by
      rw [disputed_eq_nil_iff, disputed_eq_nil_iff]
      exact pairwise_append_self Table.Agrees.symm fun t ht => Table.agrees_self (h t ht)
    rw [mergeTables_abandon_fst, mergeTables_abandon_fst, hwalk (by decide)]
    simp only [hdispute]
  · exact hwalk hhow

end Tables

namespace Policy

-- ========================================================= suppressions

theorem earliest_self (o : Option Date) : Date.earliest o o = o := by
  cases o with
  | none => rfl
  | some d => simp [Date.earliest, Date.earlier]

theorem addDates_append_self (l : List (Selector × Date)) :
    addDates ∅ (l ++ l) = addDates ∅ l := by
  apply Table.ext_get?
  · rw [keys_addDates, keys_addDates, List.map_append]
    exact distinct_append_self fun s _ => beq_self_eq_true s
  · intro s
    have happend : addDates ∅ (l ++ l) = addDates (addDates ∅ l) l := List.foldl_append
    rw [happend, get?_addDates, earliest_self]

theorem suppressAll_append_self (l : List (String × Selector × Date)) :
    suppressAll ∅ (l ++ l) = suppressAll ∅ l := by
  apply ext_datesOf
  · rw [keys_suppressAll, keys_suppressAll, List.map_append]
    exact distinct_append_self fun r _ => beq_self_eq_true r
  · intro r
    rw [datesOf_suppressAll, datesOf_suppressAll, List.filter_append, List.map_append]
    exact addDates_append_self _

-- ============================================================= policies

theorem agrees_self {p : Policy} (h : (p == p) = true) : p.Agrees p := by
  obtain ⟨hoverrides, -, hissues⟩ := self_beq_iff.1 h
  have hlicenses : (p.finalLicenses == p.finalLicenses) = true :=
    Table.self_beq_iff.2 fun _ e _ => beq_self_eq_true e
  exact ⟨Table.agrees_self hoverrides, Table.agrees_self hlicenses, Table.agrees_self hissues,
    rfl, rfl⟩

variable {ps : List Policy}

/-- Merging twice over tells something exactly if merging does. -/
theorem merge_append_self_snd (h : ∀ p ∈ ps, (p == p) = true) :
    (merge (ps ++ ps)).2 = [] ↔ (merge ps).2 = [] := by
  rw [merge_snd_eq_nil_iff, merge_snd_eq_nil_iff]
  exact pairwise_append_self Agrees.symm fun p hp => agrees_self (h p hp)

/-- Merging twice over comes to the same as merging, conflicts or not. -/
theorem merge_append_self_fst (h : ∀ p ∈ ps, (p == p) = true) :
    (merge (ps ++ ps)).1 = (merge ps).1 := by
  have hset : ∀ part : Policy → List Selector,
      mergeSets ((ps ++ ps).map part) = mergeSets (ps.map part) := by
    intro part
    rw [mergeSets, mergeSets, List.map_append, List.flatten_append]
    exact distinct_append_self fun s _ => beq_self_eq_true s
  have htable : ∀ {ν : Type} [BEq ν] [PartialEquivBEq ν] (how : Settlement)
      (part : Policy → Table Selector ν), (∀ p ∈ ps, (part p == part p) = true) →
      (mergeTables how ((ps ++ ps).map part)).1 = (mergeTables how (ps.map part)).1 := by
    intro ν _ _ how part hpart
    rw [List.map_append]
    exact mergeTables_append_self how (List.forall_mem_map.2 hpart)
  ext1
  · rw [merge_ignored, merge_ignored, hset]
  · rw [merge_overrides, merge_overrides]
    exact htable .abandon overrides fun p hp => (self_beq_iff.1 (h p hp)).1
  · rw [merge_added, merge_added, List.flatMap_append]
    refine distinct_append_self fun a ha => ?_
    obtain ⟨p, hp, hap⟩ := List.mem_flatMap.1 ha
    exact list_self_beq_iff.1 (self_beq_iff.1 (h p hp)).2.1 a hap
  · rw [merge_removed, merge_removed, hset]
  · rw [merge_validMissing, merge_validMissing, hset]
  · rw [merge_validIncomplete, merge_validIncomplete, hset]
  · rw [merge_finalLicenses, merge_finalLicenses]
    exact htable .keepFirst finalLicenses fun p _ =>
      Table.self_beq_iff.2 fun _ e _ => beq_self_eq_true e
  · rw [merge_issues, merge_issues]
    exact htable .takeLast issues fun p hp => (self_beq_iff.1 (h p hp)).2.2
  · rw [merge_suppressed, merge_suppressed, mergeSuppressions_eq, mergeSuppressions_eq,
      List.flatMap_append, suppressAll_append_self]
  · cases ps <;> rfl
  · cases ps <;> rfl

/-- Merging is idempotent. Without a not-a-number, policies that are merged
twice over come to the same in every section, and the report is empty or
not as before; a single policy has no conflict with itself. -/
theorem mergeInto_append_self (h : ∀ p ∈ ps, p.definite = true) :
    (mergeInto [] (ps ++ ps)).1 = (mergeInto [] ps).1
      ∧ ((mergeInto [] (ps ++ ps)).2 ≠ [] ↔ (mergeInto [] ps).2 ≠ [])
      ∧ ∀ p : Policy, p.definite = true →
          (mergeInto [] [p, p]).1 = (mergeInto [] [p]).1 ∧ (mergeInto [] [p, p]).2 = [] := by
  have hself : ∀ p ∈ ps, (p == p) = true := fun p hp => beq_of_definite (h p hp)
  refine ⟨merge_append_self_fst hself, (merge_append_self_snd hself).not, ?_⟩
  intro p hp
  have hone : ∀ q ∈ [p], (q == q) = true := by
    intro q hq
    rw [List.mem_singleton.1 hq]
    exact beq_of_definite hp
  refine ⟨merge_append_self_fst hone, (merge_append_self_snd hone).2 ?_⟩
  rw [merge_snd_eq_nil_iff]
  exact List.pairwise_singleton ..

/-- A policy in which the libraries have an issue of some severity, and are
overridden with a file that has it as well. -/
def assessing (severity : Float) : Policy :=
  let issue : Issue := ⟨"CVE-1", .opened, severity, none⟩
  .ofEntries [.issues (.ofFilename "lib*") [issue],
    .override (.ofFilename "lib*") ((Artifact.empty.add (.filename (.named "lib.jar"))).add
      (.issues [issue]))]

/-- Policies that assess the libraries back and forth. -/
def reassessing : List Policy := [assessing 0.0, assessing 7.5, assessing (-0.0)]

/-- The last zero stands, and again after the first one came once more. -/
theorem mergeInto_append_self_reassessing :
    (∀ p ∈ reassessing, p.definite = true)
      ∧ (mergeInto [] (reassessing ++ reassessing)).1 = (mergeInto [] reassessing).1
      ∧ (mergeInto [] (reassessing ++ reassessing)).2 ≠ []
      ∧ (mergeInto [] [assessing 7.5, assessing 7.5]).2 = [] := by
  have hdefinite : ∀ p ∈ reassessing, p.definite = true := by decide +kernel
  have htold : (mergeInto [] reassessing).2 ≠ [] := by decide +kernel
  obtain ⟨hsame, hboth, hone⟩ := mergeInto_append_self hdefinite
  exact ⟨hdefinite, hsame, hboth.2 htold, (hone _ (by decide +kernel)).2⟩

end Policy

end Clearance
