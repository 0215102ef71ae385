/-
Whether an artifact that is ignored for source resolution is exempt from
the validation of its sources. Three places have to agree about it, and
each of them asks selectors:

- A policy in which a selector ignores artifacts lets them miss their
  sources. Every way to come by a policy keeps to that
  (`Reachable.exemptsIgnored`).
- An artifact is marked as ignored before it is overridden.
- Sources are validated when everything is done.

# Where they do not agree

An override may tell other coordinates or files, and the marked artifact is
known by them from then on. The selector that has marked it does not pick it
any more where its sources are validated, so it may well be found without
them, and be a failure (`marked_not_exempt`).

# Where they do

Nothing else stands between the mark and the validation. So a marked
artifact stays marked, and either all findings about its sources are
harmless or an override has renamed it, such that no selector of ignored
artifacts picks what came out (`exempt_of_marked`).
-/
import Clearance.Artifact.Sample
import Clearance.Policy.Document
import Clearance.Proofs.Renaming
import Clearance.Proofs.Sections

namespace Clearance

open Artifact

-- ============================================================= policies

namespace Policy

/-- A policy that can come about: it is built from entries, read from a
document, or merged from policies that can come about themselves. -/
inductive Reachable : Policy → Prop where
  | entries (es : List Entry) : Reachable (.ofEntries es)
  | document {d : Document} {p : Policy} (h : d.policy = .ok p) : Reachable p
  | merge {ps : List Policy} (h : ∀ p ∈ ps, Reachable p) : Reachable (Policy.merge ps).1

/-- Ignored artifacts may miss sources and have incomplete ones. -/
structure ExemptsIgnored (p : Policy) : Prop where
  validMissing : p.ignored ⊆ p.validMissing
  validIncomplete : p.ignored ⊆ p.validIncomplete

theorem exemptsIgnored_ofEntries (es : List Entry) : (ofEntries es).ExemptsIgnored where
  validMissing _ hs := mem_addAllNew.2 (Or.inr hs)
  validIncomplete _ hs := mem_addAllNew.2 (Or.inr hs)

theorem exemptsIgnored_document {d : Document} {p : Policy} (h : d.policy = .ok p) :
    p.ExemptsIgnored := by
  unfold Document.policy at h
  cases hentries : d.entries with
  | error e =>
      rw [hentries] at h
      exact absurd h (by simp [Except.map])
  | ok es =>
      rw [hentries] at h
      rw [← Except.ok.inj h]
      exact exemptsIgnored_ofEntries es

theorem mergeSets_subset {part whole : Policy → List Selector} {ps : List Policy}
    (h : ∀ p ∈ ps, part p ⊆ whole p) : mergeSets (ps.map part) ⊆ mergeSets (ps.map whole) := by
  intro s hs
  obtain ⟨p, hp, hs⟩ := mem_mergeSets.1 hs
  exact mem_mergeSets.2 ⟨p, hp, h p hp hs⟩

/-- Merging does not look at what is ignored when it unites the other sets,
but neither does it have to, conflict or not. -/
theorem exemptsIgnored_merge {ps : List Policy} (h : ∀ p ∈ ps, p.ExemptsIgnored) :
    (merge ps).1.ExemptsIgnored := by
  constructor
  · rw [merge_ignored, merge_validMissing]
    exact mergeSets_subset fun p hp => (h p hp).validMissing
  · rw [merge_ignored, merge_validIncomplete]
    exact mergeSets_subset fun p hp => (h p hp).validIncomplete

theorem Reachable.exemptsIgnored {p : Policy} (h : p.Reachable) : p.ExemptsIgnored := by
  induction h with
  | entries es => exact exemptsIgnored_ofEntries es
  | document h => exact exemptsIgnored_document h
  | merge _ ih => exact exemptsIgnored_merge ih

/-- Whatever a policy ignores for source resolution may miss its sources and
have incomplete ones, however the policy has come about. -/
theorem Reachable.valid_of_ignored {p : Policy} (h : p.Reachable) {s : Selector}
    (hs : s ∈ p.ignored) : s ∈ p.validMissing ∧ s ∈ p.validIncomplete :=
  ⟨h.exemptsIgnored.validMissing hs, h.exemptsIgnored.validIncomplete hs⟩

/-- A policy that ignores a library, and one that contradicts its license. -/
def contradicting : List Policy :=
  [.ofEntries [.ignore (.ofFilename "lib*"), .license (.ofFilename "lib*") (.ofId "MIT")],
    .ofEntries [.license (.ofFilename "lib*") (.ofId "BSD-3-Clause")]]

/-- They are merged, and what comes of it is merged with what comes of nothing. -/
def nested : Policy := (merge [(merge []).1, (merge contradicting).1]).1

theorem reachable_nested : nested.Reachable := by
  have hparts : ∀ p ∈ contradicting, p.Reachable :=
    List.forall_mem_cons.2 ⟨.entries _, List.forall_mem_singleton.2 (.entries _)⟩
  have hnothing : ∀ p ∈ ([] : List Policy), p.Reachable := List.forall_mem_nil _
  exact .merge (List.forall_mem_cons.2
    ⟨.merge hnothing, List.forall_mem_singleton.2 (.merge hparts)⟩)

/-- A conflict does not matter, nor does merging once more. -/
theorem valid_of_ignored_nested :
    (merge contradicting).2 ≠ [] ∧ .ofFilename "lib*" ∈ nested.ignored
      ∧ .ofFilename "lib*" ∈ nested.validMissing
      ∧ .ofFilename "lib*" ∈ nested.validIncomplete := by
  have hignored : .ofFilename "lib*" ∈ nested.ignored := by decide +kernel
  exact ⟨by decide +kernel, hignored, reachable_nested.valid_of_ignored hignored⟩

end Policy

-- ========================================================== validations

namespace Sources

/-- The rules that findings about sources go by. -/
def rules : List String := ["SourceValidator::noSourceJar", "SourceValidator::noJar"]

/-- What is to be known about the finding about an artifact. -/
theorem finding?_spec {p : Policy} {a : Artifact} {f : Finding} (h : finding? p a = some f) :
    f.identity = a.identity ∧ (mayMiss p a = true → f.severity = .info) := by
  unfold finding? at h
  split at h
  · obtain rfl := Option.some.inj h
    unfold missing
    cases mayMiss p a with
    | true => exact ⟨rfl, fun _ => rfl⟩
    | false => exact ⟨rfl, fun hmiss => absurd hmiss Bool.false_ne_true⟩
  · split at h
    · obtain rfl := Option.some.inj h
      unfold incomplete mayBeIncomplete
      cases mayMiss p a with
      | true => exact ⟨rfl, fun _ => rfl⟩
      | false =>
          refine ⟨?_, fun hmiss => absurd hmiss Bool.false_ne_true⟩
          split
          · rfl
          · rfl
    · exact absurd h (by simp)

/-- Findings about what is known by one identity are harmless together. -/
theorem severity_of_mem_findings {p : Policy} {artifacts : List Artifact} {f : Finding}
    (hf : f ∈ findings p artifacts) {b : Artifact} (hid : f.identity = b.identity)
    (hb : mayMiss p b = true) : f.severity = .info := by
  obtain ⟨a, -, hfinding⟩ := List.mem_filterMap.1 hf
  obtain ⟨hidentity, hharmless⟩ := finding?_spec hfinding
  -- the finding may be about another artifact, which the same selectors pick
  refine hharmless ?_
  rw [← hb]
  unfold mayMiss
  congr 1
  funext s
  exact selects_eq_of_identity (hidentity.symm.trans hid) s

end Sources

/-- Findings about issues go by rules of their own. -/
theorem Security.rule_of_mem_findings {p : Policy} {settings : SecuritySettings} {today : Date}
    {artifacts : List Artifact} {f : Finding} (hf : f ∈ findings p settings today artifacts) :
    f.rule ∉ Sources.rules := by
  obtain ⟨a, -, hf⟩ := List.mem_flatMap.1 hf
  obtain ⟨i, -, hf⟩ := List.mem_flatMap.1 hf
  have hforbidden : (forbidden settings a i).rule ∉ Sources.rules := by
    show "SecurityIssueValidator::forbiddenSecurityIssueStatus" ∉ Sources.rules
    decide
  have hsevere : (severe settings a i).rule ∉ Sources.rules := by
    show "SecurityIssueValidator::securityIssueSeverityLimit" ∉ Sources.rules
    decide
  unfold findingsOf at hf
  split at hf
  · exact absurd hf List.not_mem_nil
  · rcases List.mem_append.1 hf with hf | hf
    · rw [List.mem_singleton.1 (List.mem_ite_nil_right.1 hf).2]
      exact hforbidden
    · rw [List.mem_singleton.1 (List.mem_ite_nil_right.1 hf).2]
      exact hsevere

-- ============================================================= the mark

namespace Stage

theorem ignoreForDownload_applyOverride {a : Artifact} (h : a.ignoreForDownload = true)
    (e : Selector × Artifact) : (applyOverride a e).ignoreForDownload = true := by
  unfold applyOverride
  split
  · show (a.ignoreForDownload || e.2.ignoreForDownload) = true
    rw [h, Bool.true_or]
  · exact h

theorem ignoreForDownload_setLicense {a : Artifact} (h : a.ignoreForDownload = true)
    (e : Selector × Expression) : (setLicense a e).ignoreForDownload = true := by
  unfold setLicense
  split
  · exact h
  · exact h

/-- The mark stays, whatever is overridden. -/
theorem ignoreForDownload_overrideArtifact {p : Policy} {a : Artifact}
    (h : (markIgnored p a).1.ignoreForDownload = true) :
    (overrideArtifact p a).1.ignoreForDownload = true := by
  rw [overrideArtifact_fst]
  refine List.foldlRecOn (motive := fun b : Artifact => b.ignoreForDownload = true) _ _ ?_
    fun b hb e _ => ignoreForDownload_setLicense hb e
  exact List.foldlRecOn (motive := fun b : Artifact => b.ignoreForDownload = true) _ _ h
    fun b hb e _ => ignoreForDownload_applyOverride hb e

theorem ignoreForDownload_markIgnored {p : Policy} {a : Artifact} {s : Selector}
    (hs : s ∈ p.ignored) (hmarks : s.selects a = true) :
    (markIgnored p a).1.ignoreForDownload = true := by
  rw [markIgnored, if_pos (List.any_eq_true.2 ⟨s, hs, hmarks⟩)]

end Stage

-- ======================================================== the exemption

namespace Workflow

open Stage

/-- All findings of an evaluation about the sources of an artifact are
harmless. -/
def Exempts (e : Evaluation) (a : Artifact) : Prop :=
  ∀ f ∈ e, f.rule ∈ Sources.rules → f.identity = a.identity → f.severity = .info

theorem run_standard_evaluation (p : Policy) (settings : Settings) (today : Date)
    (artifacts : List Artifact) :
    ((standard p settings today).run artifacts).1.evaluation =
      Security.findings p settings.security today
          ((standard p settings today).run artifacts).1.artifacts
        ++ Sources.findings p ((standard p settings today).run artifacts).1.artifacts := by
  show (_ ++ (_ ++ [])) = _
  rw [List.append_nil]
  rfl

theorem exempts_of_mayMiss {p : Policy} {b : Artifact} (hb : Sources.mayMiss p b = true)
    (settings : Settings) (today : Date) (artifacts : List Artifact) :
    Exempts ((standard p settings today).run artifacts).1.evaluation b := by
  intro f hf hrule hid
  rw [run_standard_evaluation, List.mem_append] at hf
  rcases hf with hf | hf
  · exact absurd hrule (Security.rule_of_mem_findings hf)
  · exact Sources.severity_of_mem_findings hf hid hb

-- ============================================== an artifact that is found

/-- The policy that ignores a library for source resolution and names it
after another file, while missing sources are a failure. -/
def renamingIgnored : Policy :=
  .ofEntries [.ignore (.ofFilename "lib*"),
    .override (.ofFilename "lib*") (Sample.file "other.jar"), .failOnMissing true]

theorem mem_assembled_renamingIgnored :
    Sample.maven "g" "lib" "1" ∈ assembled renamingIgnored [Sample.maven "g" "lib" "1"] :=
  mem_assembled_of_kept (List.mem_filter.2 ⟨List.mem_singleton_self _, by decide +kernel⟩)

/-- The library is found without sources, and that is a failure. -/
theorem not_exempts_renamingIgnored :
    ¬ Exempts ((standard renamingIgnored .usual ⟨2024, 1, 1, rfl⟩).run
      [Sample.maven "g" "lib" "1"]).1.evaluation
      (overrideArtifact renamingIgnored (Sample.maven "g" "lib" "1")).1 := by
  intro hexempts
  have hout : (overrideArtifact renamingIgnored (Sample.maven "g" "lib" "1")).1 ∈
      ((standard renamingIgnored .usual ⟨2024, 1, 1, rfl⟩).run
        [Sample.maven "g" "lib" "1"]).1.artifacts :=
    (mem_run_standard ..).2 ⟨_, mem_assembled_renamingIgnored, rfl⟩
  have hfinding : Sources.missing renamingIgnored
      (overrideArtifact renamingIgnored (Sample.maven "g" "lib" "1")).1 ∈
      ((standard renamingIgnored .usual ⟨2024, 1, 1, rfl⟩).run
        [Sample.maven "g" "lib" "1"]).1.evaluation := by
    rw [run_standard_evaluation]
    refine List.mem_append_right _ (List.mem_filterMap.2 ⟨_, List.mem_filter.2 ⟨hout, ?_⟩, ?_⟩)
    · decide +kernel
    · decide +kernel
  have hinfo := hexempts _ hfinding (by decide +kernel) (by decide +kernel)
  exact absurd hinfo (by decide +kernel)

/-- A policy ignores a library, the run marks it, and it is not exempt. -/
theorem marked_not_exempt :
    renamingIgnored.Reachable
      ∧ (∃ s ∈ renamingIgnored.ignored, s.selects (Sample.maven "g" "lib" "1") = true)
      ∧ Sample.maven "g" "lib" "1" ∈ assembled renamingIgnored [Sample.maven "g" "lib" "1"]
      ∧ ¬ Exempts ((standard renamingIgnored .usual ⟨2024, 1, 1, rfl⟩).run
        [Sample.maven "g" "lib" "1"]).1.evaluation
        (overrideArtifact renamingIgnored (Sample.maven "g" "lib" "1")).1 :=
  ⟨.entries _, ⟨.ofFilename "lib*", by decide +kernel, by decide +kernel⟩,
    mem_assembled_renamingIgnored, not_exempts_renamingIgnored⟩

-- ======================================================== the true extent

/-- A marked artifact comes out marked. It is exempt, unless an override has
renamed it to something that no selector lets miss its sources. -/
theorem exempt_of_marked {p : Policy} (hp : p.Reachable) (settings : Settings) (today : Date)
    (artifacts : List Artifact) {a : Artifact} (ha : a ∈ assembled p artifacts) {s : Selector}
    (hs : s ∈ p.ignored) (hmarks : s.selects a = true) :
    (overrideArtifact p a).1 ∈ ((standard p settings today).run artifacts).1.artifacts
      ∧ (overrideArtifact p a).1.ignoreForDownload = true
      ∧ (Exempts ((standard p settings today).run artifacts).1.evaluation (overrideArtifact p a).1
        ∨ Renamed p.overrides.entries (markIgnored p a).1
          ∧ ∀ t ∈ p.validMissing, t.selects (overrideArtifact p a).1 = false) := by
  refine ⟨(mem_run_standard ..).2 ⟨a, ha, rfl⟩,
    ignoreForDownload_overrideArtifact (ignoreForDownload_markIgnored hs hmarks), ?_⟩
  cases hmiss : Sources.mayMiss p (overrideArtifact p a).1 with
  | true => exact Or.inl (exempts_of_mayMiss hmiss settings today artifacts)
  | false =>
      have hnone : ∀ t ∈ p.validMissing, t.selects (overrideArtifact p a).1 = false := by
        intro t ht
        exact Bool.eq_false_iff.2 (List.any_eq_false.1 hmiss t ht)
      refine Or.inr ⟨?_, hnone⟩
      -- the selector that marked the artifact is among those that let it miss sources
      by_contra hsame
      have hlost := hnone s (hp.exemptsIgnored.validMissing hs)
      rw [selects_overrideArtifact, selects_foldl_applyOverride hsame, selects_markIgnored,
        hmarks] at hlost
      exact absurd hlost (by simp)

/-- The library that is found has been renamed. -/
theorem exempt_of_marked_renamed :
    Renamed renamingIgnored.overrides.entries
      (markIgnored renamingIgnored (Sample.maven "g" "lib" "1")).1 := by
  have hmarks : Selector.selects (.ofFilename "lib*") (Sample.maven "g" "lib" "1") = true := by
    decide +kernel
  obtain ⟨-, -, hexempt⟩ := exempt_of_marked (.entries _) .usual ⟨2024, 1, 1, rfl⟩ _
    mem_assembled_renamingIgnored (List.mem_singleton_self _) hmarks
  exact (hexempt.resolve_left not_exempts_renamingIgnored).1

end Workflow

end Clearance
