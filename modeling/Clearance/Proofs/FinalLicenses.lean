/-
Final licenses win. Whatever licenses an artifact came with, and whatever
the overrides made of them, a license that the policy fixes for it is the
one that counts (`finalLicense_of_fixed`).

# Which license is fixed

Several selectors may pick one artifact, and every license that is set
takes the place of the one before it, so that of the last one stays
(`get?_configured_foldl_setLicense`). Setting a license changes nothing
that selectors look at. So it does not matter whether they are asked where
the licenses are set or about the artifact that comes out, and
`fixedLicense?` asks about the latter.

A license that says nothing is stored and never answered. If the last one
is such, it hides the configured license that the artifact had, and what
counts is decided by the other roles. So nothing is said here about it.
-/
import Clearance.Artifact.FinalLicense
import Clearance.Artifact.Sample
import Clearance.Proofs.Stages

namespace Clearance

open Artifact

namespace Stage

/-- The license that a policy fixes for an artifact: that of the last
selector that picks it. -/
def fixedLicense? (p : Policy) (a : Artifact) : Option Expression :=
  (p.finalLicenses.entries.filter fun e => e.1.selects a).getLast?.map Prod.snd

/-- The configured license that is stored after some licenses were set. -/
theorem get?_configured_foldl_setLicense (a : Artifact) (es : List (Selector × Expression)) :
    (es.foldl setLicense a).facts.get? (.license .configured) =
      match (es.filter fun e => e.1.selects a).getLast? with
      | some e => some [.license .configured e.2]
      | none => a.facts.get? (.license .configured) := by
  induction es using List.reverseRecOn with
  | nil => rfl
  | append_singleton es e ih =>
      rw [List.foldl_append, List.foldl_cons, List.foldl_nil, setLicense,
        selects_foldl_setLicense, List.filter_append]
      cases he : e.1.selects a with
      | false =>
          rw [List.filter_singleton, he]
          simpa using ih
      | true =>
          rw [List.filter_singleton, he, if_pos rfl]
          show (((es.foldl setLicense a).add (.license .configured e.2)).facts.get? _) = _
          rw [get?_add rfl]
          simp [Fact.kind]

/-- Selectors pick an artifact as the overrides left it exactly if they
pick it as it comes out. -/
theorem fixedLicense?_overrideArtifact (p : Policy) (a : Artifact) :
    fixedLicense? p (overrideArtifact p a).1 =
      fixedLicense? p (p.overrides.entries.foldl applyOverride (markIgnored p a).1) := by
  unfold fixedLicense?
  simp only [selects_overrideArtifact]

theorem get?_configured_overrideArtifact {p : Policy} {a : Artifact} {e : Expression}
    (hfixed : fixedLicense? p (overrideArtifact p a).1 = some e) :
    (overrideArtifact p a).1.facts.get? (.license .configured) =
      some [.license .configured e] := by
  rw [fixedLicense?_overrideArtifact] at hfixed
  obtain ⟨entry, hlast, rfl⟩ := Option.map_eq_some_iff.1 hfixed
  rw [overrideArtifact_fst, get?_configured_foldl_setLicense, hlast]

end Stage

/-- A configured license that says something counts, whatever else is
stored. -/
theorem Artifact.finalLicense_of_configured {a : Artifact} {e : Expression}
    (hstored : a.facts.get? (.license .configured) = some [.license .configured e])
    (he : e.isEmpty = false) : a.finalLicense = e := by
  have hconfigured : a.license? .configured = some e := by
    unfold Artifact.license? ask? askList Artifact.stored
    rw [hstored, Option.getD_some, telling, List.filter_singleton]
    simp [Fact.isEmpty, Fact.license?, he]
  rw [finalLicense, hconfigured]

namespace Workflow

open Stage

/-- The license that a policy fixes for an artifact that comes out of the
standard workflow is the license that counts for it, unless it is empty. -/
theorem finalLicense_of_fixed (p : Policy) (settings : Settings) (today : Date)
    (artifacts : List Artifact) {a : Artifact}
    (ha : a ∈ ((standard p settings today).run artifacts).1.artifacts) {e : Expression}
    (hfixed : fixedLicense? p a = some e) (he : e.isEmpty = false) : a.finalLicense = e := by
  obtain ⟨b, -, rfl⟩ := (mem_run_standard p settings today artifacts).1 ha
  exact finalLicense_of_configured (get?_configured_overrideArtifact hfixed) he

/-- Two licenses are fixed for a file, and an override configures a third. -/
def relicensing : Policy :=
  Policy.ofEntries
    [.override (.ofFilename "*.jar") (Artifact.empty.add (.license .configured (.ofId "GPL-2.0"))),
      .license (.ofFilename "*.jar") (.ofId "MIT"), .license (.ofFilename "lib*") (.ofId "ISC")]

/-- A file with a declared license. -/
def declaredFile : Artifact := Sample.withLicense (Sample.file "lib.jar") "EPL-2.0"

/-- Of the four licenses the one that is fixed last counts. -/
theorem finalLicense_of_fixed_relicensing :
    fixedLicense? relicensing (overrideArtifact relicensing declaredFile).1 = some (.ofId "ISC")
      ∧ (overrideArtifact relicensing declaredFile).1.finalLicense = .ofId "ISC" := by
  have hkept : declaredFile ∈ kept relicensing [declaredFile] :=
    List.mem_filter.2 ⟨List.mem_singleton_self _, by decide +kernel⟩
  have hout := (mem_run_standard relicensing .usual ⟨2024, 1, 1, rfl⟩ [declaredFile]).2
    ⟨declaredFile, mem_assembled_of_kept hkept, rfl⟩
  have hfixed : fixedLicense? relicensing (overrideArtifact relicensing declaredFile).1
      = some (.ofId "ISC") := by
    decide +kernel
  exact ⟨hfixed, finalLicense_of_fixed relicensing .usual _ [declaredFile] hout hfixed rfl⟩

end Workflow

end Clearance
