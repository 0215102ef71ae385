/-
How the findings about security issues depend on the day. Suppressions only
expire: what is found on one day is found on every later day as well, in the
same order (`findings_expiring`).

# One artifact, two days

The issues of an artifact and their order do not depend on the day, nor do
the rules that an issue breaks. The day decides only whether the issue counts,
and an issue that counts goes on counting, because a date that does not lie
after one day does not lie after a later one (`Counts.of_le`). So the findings
of the earlier day are those of the later one with some left out, issue by
issue.

# After the last date

Of all dates of a policy the latest one is the last on which it makes a
difference that there are suppressions. From then on an issue counts exactly
if it would count without them (`counts_iff_of_expired`).
-/
import Clearance.Proofs.Vulnerabilities
import Mathlib.Data.List.Flatten

namespace Clearance

-- ================================================================ dates

namespace Date

theorem not_lt_iff {a b : Date} : ¬ a < b ↔ b ≤ a := Int.not_lt

/-- A day is not before the latest of some days exactly if it is before none of
them. -/
theorem latest?_le_iff {ds : List Date} {d : Date} :
    (∀ x, latest? ds = some x → x ≤ d) ↔ ∀ x ∈ ds, x ≤ d := by
  have hany := not_congr (any_latest?_iff d ds)
  simp only [Option.any_eq_true, decide_eq_true_eq, not_exists, not_and, not_lt_iff] at hany
  exact hany

end Date

namespace Policy

/-- The latest date of all suppressions. -/
def lastSuppression? (p : Policy) : Option Date :=
  Date.latest? (p.suppressions.map fun e => e.2.2)

/-- The policy without its suppressions. -/
def unsuppressed (p : Policy) : Policy := { p with suppressed := ∅ }

theorem until?_unsuppressed (p : Policy) (reference : String) (s : Selector) :
    p.unsuppressed.until? reference s = none := rfl

/-- Suppressions are written with the dates under which they are looked up. -/
theorem mem_suppressions_iff {p : Policy} {reference : String} {s : Selector} {d : Date} :
    (reference, s, d) ∈ p.suppressions ↔ p.until? reference s = some d := by
  rw [until?, Table.get?_eq_some_iff, ← filter_suppressions]
  simp

end Policy

namespace Security

variable {p : Policy} {settings : SecuritySettings} {d e : Date} {a : Artifact} {i : Issue}

-- =============================================================== counting

/-- An issue that counts goes on counting. -/
theorem Counts.of_le (hle : d ≤ e) (h : Counts p settings d a i) : Counts p settings e a i where
  reference_notMem := h.reference_notMem
  status_ne := h.status_ne
  unsuppressed := by
    intro ⟨s, date, huntil, hpicks, hlater⟩
    exact h.unsuppressed ⟨s, date, huntil, hpicks, Int.lt_of_le_of_lt hle hlater⟩

/-- Once the last date has come, an issue counts as if nothing had been
suppressed, on whatever day. -/
theorem counts_iff_of_expired (h : ∀ date, p.lastSuppression? = some date → date ≤ d) :
    Counts p settings d a i ↔ Counts p.unsuppressed settings e a i := by
  have hexpired : ∀ s date, p.until? i.reference s = some date → ¬ d < date := by
    intro s date huntil
    rw [Date.not_lt_iff]
    refine Date.latest?_le_iff.1 h date ?_
    exact List.mem_map.2 ⟨_, Policy.mem_suppressions_iff.2 huntil, rfl⟩
  constructor
  · intro hcounts
    refine ⟨hcounts.reference_notMem, hcounts.status_ne, ?_⟩
    intro ⟨s, date, huntil, _⟩
    rw [Policy.until?_unsuppressed] at huntil
    cases huntil
  · intro hcounts
    refine ⟨hcounts.reference_notMem, hcounts.status_ne, ?_⟩
    intro ⟨s, date, huntil, _, hlater⟩
    exact hexpired s date huntil hlater

-- ============================================================= findings

/-- What is found about an issue on one day is found on a later one. -/
theorem findingsOf_sublist (hle : d ≤ e) :
    (findingsOf p settings d a i).Sublist (findingsOf p settings e a i) := by
  rw [findingsOf_eq_map, findingsOf_eq_map]
  refine List.Sublist.map _ (List.monotone_filter_right _ fun r hr => ?_)
  rw [decide_eq_true_eq] at hr ⊢
  exact ⟨hr.1.of_le hle, hr.2⟩

/-- Policies with the same issues find the same if the same issues count. -/
theorem findingsOf_congr {q : Policy}
    (h : Counts p settings d a i ↔ Counts q settings e a i) :
    findingsOf p settings d a i = findingsOf q settings e a i := by
  rw [findingsOf_eq_map, findingsOf_eq_map]
  simp only [h]

/-- Suppressions only expire. What is found on a day is found, in the same
order, on every later one. When the last date of a suppression has come, there
is found what the policy without suppressions finds on any day. -/
theorem findings_expiring (p : Policy) (settings : SecuritySettings) (artifacts : List Artifact) :
    (∀ d e : Date, d ≤ e →
        (Validation.findings artifacts (.security p settings d)).Sublist
          (Validation.findings artifacts (.security p settings e)))
      ∧ ∀ today day : Date, (∀ date, p.lastSuppression? = some date → date ≤ today) →
        Validation.findings artifacts (.security p settings today)
          = Validation.findings artifacts (.security p.unsuppressed settings day) := by
  constructor
  · intro d e hle
    refine List.Sublist.flatMap_right artifacts fun a _ => ?_
    exact List.Sublist.flatMap_right (issuesOf p a) fun i _ => findingsOf_sublist hle
  · intro today day hexpired
    refine List.flatMap_congr fun a _ => ?_
    exact List.flatMap_congr fun i _ => findingsOf_congr (counts_iff_of_expired hexpired)

/-- What a policy finds about a library on a day. -/
def foundAboutLibrary (p : Policy) (today : Date) : Evaluation :=
  Validation.findings [Artifact.Sample.file "lib.jar"]
    (.security p ⟨[.opened], .warn, 9.8, .fail, []⟩ today)

/-- In June one of the two dates has passed and the other one has not. What is
still suppressed then is found on the last day of the year. -/
theorem findings_expiring_watching :
    (foundAboutLibrary watching ⟨2025, 6, 1, rfl⟩).Sublist
        (foundAboutLibrary watching ⟨2025, 12, 31, rfl⟩)
      ∧ (foundAboutLibrary watching ⟨2025, 6, 1, rfl⟩).length = 2
      ∧ (foundAboutLibrary watching ⟨2025, 12, 31, rfl⟩).length = 3
      ∧ foundAboutLibrary watching ⟨2025, 12, 31, rfl⟩
          = foundAboutLibrary watching.unsuppressed ⟨2024, 1, 1, rfl⟩ := by
  have hlast : watching.lastSuppression? = some ⟨2025, 12, 31, rfl⟩ := by decide +kernel
  have hexpiring := findings_expiring watching ⟨[.opened], .warn, 9.8, .fail, []⟩
    [Artifact.Sample.file "lib.jar"]
  refine ⟨hexpiring.1 _ _ (by decide), by decide +kernel, by decide +kernel,
    hexpiring.2 _ _ fun date hdate => ?_⟩
  rw [hlast, Option.some.injEq] at hdate
  exact hdate ▸ Int.le_refl _

end Security

end Clearance
