/-
What the validation of security issues finds, exactly. For every artifact the
issues are gone through in the order in which they first come up, and for each
of them the two rules in their order; there is a finding for every pair of
an issue that counts and a rule that it breaks, and there are no others
(`findings_security`).

# Which issues there are

The issues come from the artifact's own fact and from every entry of the
policy that picks the artifact, and the same issue may come from any of
them. It is the same one if all is the same that is known of it; another
severity under the same reference makes it another issue. Going through
them keeps a list of those that were kept, while `firsts` asks every issue
for equal ones among all that came before it. Both list the same issues
(`distinct_eq_firsts`).

# Until when an issue is suppressed

Several selectors may pick an artifact, with a date each. The latest date
counts, so an issue is passed over exactly if one of the dates lies after
today (`isSuppressed_iff`).
-/
import Clearance.Artifact.Sample
import Clearance.Proofs.Overrides
import Clearance.Proofs.Suppression
import Mathlib.Data.List.ProdSigma

namespace Clearance

-- ================================================================ dates

namespace Date

theorem lt_later_iff {d a b : Date} : d < later a b ↔ d < a ∨ d < b := by
  have hlt : ∀ x y : Date, x < y ↔ x.ordinal < y.ordinal := fun _ _ => Iff.rfl
  unfold later
  by_cases hab : a < b
  · rw [if_pos hab]
    simp only [hlt] at hab ⊢
    omega
  · rw [if_neg hab]
    simp only [hlt] at hab ⊢
    omega

theorem lt_foldl_later_iff {d : Date} (a : Date) (ds : List Date) :
    d < ds.foldl later a ↔ d < a ∨ ∃ b ∈ ds, d < b := by
  induction ds generalizing a with
  | nil => simp
  | cons b ds ih =>
      rw [List.foldl_cons, ih, lt_later_iff, or_assoc]
      simp only [List.mem_cons, exists_eq_or_imp]

/-- A day lies before the latest of some days exactly if it lies before one
of them. -/
theorem any_latest?_iff (d : Date) (ds : List Date) :
    ((latest? ds).any fun x => d < x) = true ↔ ∃ x ∈ ds, d < x := by
  cases ds with
  | nil => simp [latest?]
  | cons a ds =>
      simp only [List.mem_cons, exists_eq_or_imp]
      rw [← lt_foldl_later_iff]
      exact decide_eq_true_iff

end Date

namespace Security

open Stage (picking)

variable (p : Policy) (settings : SecuritySettings) (today : Date) (a : Artifact) (i : Issue)

-- =============================================================== issues

/-- The issues of an artifact's own. -/
def ownIssues : List Issue :=
  match a.ask? .issues with
  | some (.issues found) => found
  | _ => []

/-- The issues that come up about an artifact: its own, and then those of all
entries that pick it. -/
def raised : List Issue := ownIssues a ++ (picking p.issues.entries a).flatMap Prod.snd

theorem issuesOf_eq_firsts : issuesOf p a = firsts (raised p a) := by
  have hown : ((a.ask? .issues).bind Fact.issues?).getD [] = ownIssues a := by
    unfold ownIssues
    cases a.ask? .issues with
    | none => rfl
    | some f =>
        cases f with
        | _ => rfl
  rw [← distinct_eq_firsts, raised, ← hown]
  rfl

-- ========================================================= passing over

theorem isSuppressed_iff (reference : String) :
    isSuppressed p today reference a = true ↔
      ∃ s date, p.until? reference s = some date ∧ s.selects a = true ∧ today < date := by
  unfold isSuppressed suppressedUntil? Policy.until? Policy.datesOf
  cases p.suppressed.get? reference with
  | none => simp
  | some dates =>
      rw [Option.bind_some, Date.any_latest?_iff, Option.getD_some]
      simp only [Table.get?_eq_some_iff]
      constructor
      · intro h
        obtain ⟨date, hdate, hlater⟩ := h
        obtain ⟨e, he, rfl⟩ := List.mem_map.1 hdate
        obtain ⟨hentry, hpicks⟩ := List.mem_filter.1 he
        exact ⟨e.1, e.2, hentry, hpicks, hlater⟩
      · intro h
        obtain ⟨s, date, hentry, hpicks, hlater⟩ := h
        exact ⟨date, List.mem_map.2 ⟨(s, date), List.mem_filter.2 ⟨hentry, hpicks⟩, rfl⟩, hlater⟩

/-- An issue of an artifact counts: its reference is not ignored, it may
apply, and no selector that picks the artifact suppresses it until after
today. -/
structure Counts : Prop where
  reference_notMem : i.reference ∉ settings.ignoredReferences
  status_ne : i.status ≠ .notApplicable
  unsuppressed : ¬ ∃ s date, p.until? i.reference s = some date ∧ s.selects a = true ∧ today < date

theorem isPassedOver_eq_false_iff :
    isPassedOver p settings today a i = false ↔ Counts p settings today a i := by
  have hsuppressed : isSuppressed p today i.reference a = false ↔
      ¬ ∃ s date, p.until? i.reference s = some date ∧ s.selects a = true ∧ today < date := by
    rw [← isSuppressed_iff, Bool.not_eq_true]
  have hignored : settings.ignoredReferences.contains i.reference = false ↔
      i.reference ∉ settings.ignoredReferences := by
    rw [← List.contains_iff_mem, Bool.not_eq_true]
  unfold isPassedOver
  rw [Bool.or_eq_false_iff, Bool.or_eq_false_iff, hsuppressed, hignored, beq_eq_false_iff_ne]
  constructor
  · intro h
    exact ⟨h.1.1, h.1.2, h.2⟩
  · intro h
    exact ⟨⟨h.reference_notMem, h.status_ne⟩, h.unsuppressed⟩

instance : Decidable (Counts p settings today a i) :=
  decidable_of_iff _ (isPassedOver_eq_false_iff p settings today a i)

-- ================================================================ rules

/-- A rule about issues. -/
inductive Rule where
  /-- Some statuses are forbidden. -/
  | status
  /-- Severities stay below the limit. -/
  | severity
  deriving DecidableEq

namespace Rule

/-- The rules, in the order in which they are looked at. -/
def all : List Rule := [status, severity]

/-- Whether an issue breaks a rule. -/
def Broken : Rule → Prop
  | status => i.status ∈ settings.forbiddenStatuses
  | severity => settings.limit ≤ i.severity

instance (r : Rule) : Decidable (r.Broken settings i) :=
  match r with
  | status => inferInstanceAs (Decidable (i.status ∈ settings.forbiddenStatuses))
  | severity => inferInstanceAs (Decidable (settings.limit ≤ i.severity))

/-- The finding about an issue that breaks a rule. -/
def finding : Rule → Finding
  | status => forbidden settings a i
  | severity => severe settings a i

end Rule

-- ============================================================= findings

theorem map_filter_pair {α β : Type} (q : α → Bool) (f : α → β) (x y : α) :
    ([x, y].filter q).map f = (if q x then [f x] else []) ++ (if q y then [f y] else []) := by
  rw [List.filter_cons, List.filter_singleton]
  cases q x with
  | true => cases q y <;> rfl
  | false => cases q y <;> rfl

/-- About an issue that counts there is a finding for every rule that it
breaks, and about another one there is none. -/
theorem findingsOf_eq_map :
    findingsOf p settings today a i =
      (Rule.all.filter fun r => Counts p settings today a i ∧ r.Broken settings i).map
        fun r => r.finding settings a i := by
  rw [Rule.all, map_filter_pair, findingsOf]
  simp only [decide_eq_true_eq]
  by_cases hcounts : Counts p settings today a i
  · have hpassed := (isPassedOver_eq_false_iff p settings today a i).2 hcounts
    have hstatus : settings.forbiddenStatuses.contains i.status = true ↔
        Counts p settings today a i ∧ Rule.status.Broken settings i :=
      List.contains_iff_mem.trans (and_iff_right hcounts).symm
    have hseverity : settings.limit ≤ i.severity ↔
        Counts p settings today a i ∧ Rule.severity.Broken settings i :=
      (and_iff_right hcounts).symm
    rw [if_neg (Bool.eq_false_iff.1 hpassed), if_congr hstatus rfl rfl,
      if_congr hseverity rfl rfl]
    rfl
  · have hpassed := mt (isPassedOver_eq_false_iff p settings today a i).1 hcounts
    rw [if_pos (Bool.not_eq_false _ |>.mp hpassed), if_neg (mt And.left hcounts),
      if_neg (mt And.left hcounts)]
    rfl

/-- The findings about artifacts, one artifact after another, are those of the
pairs of an issue and a rule in which the issue counts and breaks the rule.
The issues come in the order in which they were first raised. -/
theorem findings_security (artifacts : List Artifact) :
    Validation.findings artifacts (.security p settings today) =
      artifacts.flatMap fun a =>
        ((firsts (raised p a) ×ˢ Rule.all).filter fun e =>
            Counts p settings today a e.1 ∧ e.2.Broken settings e.1).map
          fun e => e.2.finding settings a e.1 := by
  show (artifacts.flatMap fun a => (issuesOf p a).flatMap (findingsOf p settings today a)) = _
  congr 1
  funext a
  rw [issuesOf_eq_firsts]
  show _ = List.map _ (List.filter _ ((firsts (raised p a)).flatMap fun i => Rule.all.map (i, ·)))
  rw [List.filter_flatMap, List.map_flatMap]
  congr 1
  funext i
  rw [findingsOf_eq_map, List.filter_map, List.map_map]
  rfl

/-- A policy that tells of three issues, of one of them twice, and suppresses
another one until two different days. -/
def watching : Policy :=
  Policy.ofEntries
    [.issues (.ofFilename "lib*") [⟨"CVE-1", .opened, 9.8, none⟩, ⟨"CVE-2", .confirmed, 9.9, none⟩],
      .issues (.ofFilename "*.jar")
        [⟨"CVE-1", .opened, 9.8, none⟩, ⟨"CVE-3", .notApplicable, 10, none⟩],
      .suppress "CVE-2" (.ofFilename "lib*") ⟨2025, 1, 1, rfl⟩,
      .suppress "CVE-2" (.ofFilename "*.jar") ⟨2025, 12, 31, rfl⟩]

/-- The library's own issue and the one of the policy have one reference and
differ in severity. -/
example :
    (Validation.findings
        [(Artifact.Sample.file "lib.jar").add (.issues [⟨"CVE-1", .opened, 3.5, none⟩])]
        (.security watching ⟨[.opened], .warn, 9.8, .fail, []⟩ ⟨2025, 6, 1, rfl⟩)).map Finding.rule
      = ["SecurityIssueValidator::forbiddenSecurityIssueStatus",
        "SecurityIssueValidator::forbiddenSecurityIssueStatus",
        "SecurityIssueValidator::securityIssueSeverityLimit"] := by
  decide +kernel

end Security

end Clearance
